/-
Module: ChatRobots.Proofs.Poker.Books
Purpose: The rows of a store, in memory and in the database.
Main exports: Medium.books, Medium.books_issuing, Medium.books_listing
-/
import ChatRobots.Proofs.Database.PokerLifecycle
import ChatRobots.Proofs.Poker.Medium
import ChatRobots.Proofs.Poker.MemoryLifecycle

namespace ChatRobots.Poker.Medium

/-- What the calls do to the rows, in memory and in the database. -/
def books : (medium : Medium) → Bookkeeping medium.backend
  | memory => Memory.bookkeeping
  | database => Database.pokerBookkeeping

theorem books_empty (medium : Medium) : medium.books.Sound medium.empty := by
  cases medium with
  | memory => exact Memory.healthy_empty
  | database => exact Database.counting_empty

theorem books_issuing (medium : Medium) : medium.books.Issuing := by
  cases medium with
  | memory => exact Memory.issuing
  | database => exact Database.issuing

theorem books_listing (medium : Medium) : medium.books.Listing := by
  cases medium with
  | memory => exact Memory.listing
  | database => exact Database.listing

@[simp] theorem ledger_empty (medium : Medium) : medium.books.ledger medium.empty = {} := by
  cases medium <;> rfl

end ChatRobots.Poker.Medium
