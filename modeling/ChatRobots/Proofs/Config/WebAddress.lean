/-
Module: ChatRobots.Proofs.Config.WebAddress
Purpose: The parts of an address, and which of them the report leaves out.
Main exports: WebAddress, WebAddress.Spells, WebAddress.redactUrl_of_spells,
  WebAddress.redactUrl_eq_iff, WebAddress.exists_spells
-/
import Mathlib.Data.List.TakeWhile
import ChatRobots.Config.Report

namespace ChatRobots

/-!
The report cuts an address at the first slash behind the scheme, while its parts end at other
signs as well: the host at a question mark or a number sign, and before the host there may be a
user with a password.  So of what stands behind the host a part is shown, if no slash comes first,
and what stands before it is shown altogether.
-/

/-- An address in its parts. -/
structure WebAddress where
  secure : Bool
  /-- User and password, which an at sign parts from the host. -/
  userInfo : Option (List Char)
  host : List Char
  /-- The port with its colon; nothing when there is none. -/
  port : List Char
  /-- Path, query and fragment, from the sign with which the first of them begins. -/
  tail : List Char
  userInfo_inside : ∀ user ∈ userInfo, ∀ c ∈ user, c ∉ ['/', '?', '#']
  host_inside : ∀ c ∈ host ++ port, c ∉ ['/', '?', '#', '@']
  tail_outside : ∀ c ∈ tail.head?, c ∈ ['/', '?', '#']

namespace WebAddress

def scheme (address : WebAddress) : List Char :=
  if address.secure then "https".toList else "http".toList

/-- What stands before the host. -/
def credentials (address : WebAddress) : List Char :=
  address.userInfo.elim [] (· ++ ['@'])

/-- What stands between the scheme and the tail. -/
def authority (address : WebAddress) : List Char :=
  address.credentials ++ (address.host ++ address.port)

def text (address : WebAddress) : List Char :=
  address.scheme ++ "://".toList ++ (address.authority ++ address.tail)

/-- Blanks at its ends aside, the text is the address. -/
def Spells (address : WebAddress) (url : String) : Prop :=
  Text.trim url.toList = address.text

instance (address : WebAddress) (url : String) : Decidable (address.Spells url) :=
  inferInstanceAs (Decidable (Text.trim url.toList = address.text))

/-- The part of the tail that is shown. -/
def shownTail (address : WebAddress) : List Char :=
  address.tail.takeWhile (· != '/')

variable {address other : WebAddress}

theorem authority_inside (address : WebAddress) :
    ∀ c ∈ address.authority, c ∉ ['/', '?', '#'] := by
  intro c mem
  rcases List.mem_append.1 mem with before | behind
  · rw [credentials] at before
    cases user : address.userInfo with
    | none =>
        rw [user] at before
        cases before
    | some text =>
        rw [user] at before
        rcases List.mem_append.1 before with inside | sign
        · exact address.userInfo_inside text user c inside
        · cases List.mem_singleton.1 sign
          decide
  · intro sign
    exact address.host_inside c behind (List.mem_append_left ['@'] sign)

theorem cutAtMark?_text (address : WebAddress) :
    Text.cutAtMark? "://".toList address.text =
      some (address.scheme, address.authority ++ address.tail) := by
  rw [text, scheme]
  cases address.secure <;> rfl

/-- What the report shows of an address. -/
theorem redactUrl_of_spells {url : String} (spells : address.Spells url) :
    redactUrl url = String.ofList address.scheme ++ "://" ++
      String.ofList (address.authority ++ address.shownTail) ++ "/***" := by
  have slashless : ∀ c ∈ address.authority, (c != '/') = true := by
    intro c mem
    have inside := address.authority_inside c mem
    rw [bne_iff_ne]
    rintro rfl
    exact inside List.mem_cons_self
  have shown : (address.authority ++ address.tail).takeWhile (· != '/') =
      address.authority ++ address.shownTail := by
    rw [List.takeWhile_append_of_pos slashless, shownTail]
  have solid : address.text.isEmpty = false := by
    rw [text, scheme]
    cases address.secure <;> rfl
  rw [redactUrl, spells, solid, cutAtMark?_text]
  dsimp only
  rw [shown]
  rfl

theorem shownTail_outside (address : WebAddress) :
    ∀ c ∈ address.shownTail.head?, c ∈ ['/', '?', '#'] := by
  intro c mem
  apply address.tail_outside
  rw [shownTail] at mem
  cases tail : address.tail with
  | nil =>
      rw [tail] at mem
      cases mem
  | cons first rest =>
      rw [tail, List.takeWhile_cons] at mem
      split at mem
      · exact mem
      · cases mem

/-- Where a text without these signs ends and one that begins with such a sign follows, the two
can be told from the whole. -/
theorem append_inj_of_inside {signs first first' second second' : List Char}
    (inside : ∀ c ∈ first, c ∉ signs) (inside' : ∀ c ∈ first', c ∉ signs)
    (outside : ∀ c ∈ second.head?, c ∈ signs) (outside' : ∀ c ∈ second'.head?, c ∈ signs) :
    first ++ second = first' ++ second' ↔ first = first' ∧ second = second' := by
  have ends {text rest : List Char} (plain : ∀ c ∈ text, c ∉ signs)
      (sign : ∀ c ∈ rest.head?, c ∈ signs) :
      (text ++ rest).takeWhile (fun c => decide (c ∉ signs)) = text := by
    rw [List.takeWhile_append_of_pos fun c mem => decide_eq_true (plain c mem)]
    cases rest with
    | nil => exact List.append_nil text
    | cons c rest =>
        have stops : decide (c ∉ signs) = false := decide_eq_false (not_not_intro (sign c rfl))
        rw [List.takeWhile_cons, stops, if_neg Bool.false_ne_true, List.append_nil]
  constructor
  · intro same
    have first_eq : first = first' := by
      rw [← ends inside outside, same, ends inside' outside']
    refine ⟨first_eq, ?_⟩
    rw [first_eq] at same
    exact List.append_cancel_left same
  · rintro ⟨rfl, rfl⟩
    rfl

theorem credentials_eq_iff :
    address.credentials = other.credentials ↔ address.userInfo = other.userInfo := by
  rw [credentials, credentials]
  cases address.userInfo <;> cases other.userInfo <;> simp

theorem head?_reverse_credentials (address : WebAddress) :
    ∀ c ∈ address.credentials.reverse.head?, c ∈ ['@'] := by
  intro c mem
  rw [credentials] at mem
  cases user : address.userInfo with
  | none =>
      rw [user] at mem
      cases mem
  | some text =>
      rw [user, Option.elim_some, List.reverse_concat] at mem
      cases mem
      exact List.mem_singleton_self '@'

/-- Two addresses with one host have the same authority when user and port are the same. -/
theorem authority_eq_iff (host : address.host = other.host) :
    address.authority = other.authority ↔
      address.userInfo = other.userInfo ∧ address.port = other.port := by
  -- Read from its end, an authority goes up to the last at sign and on from there.
  have backwards (address : WebAddress) : address.authority.reverse =
      (address.host ++ address.port).reverse ++ address.credentials.reverse :=
    List.reverse_append
  have inside (address : WebAddress) : ∀ c ∈ (address.host ++ address.port).reverse, c ∉ ['@'] := by
    intro c mem sign
    apply address.host_inside c (List.mem_reverse.1 mem)
    exact List.mem_append_right ['/', '?', '#'] sign
  rw [← List.reverse_inj, backwards, backwards,
    append_inj_of_inside (inside address) (inside other) address.head?_reverse_credentials
      other.head?_reverse_credentials,
    List.reverse_inj, List.reverse_inj, credentials_eq_iff, host, List.append_cancel_left_eq]
  exact and_comm

/-- Of two addresses with one scheme and one host the report shows the same exactly when they
agree in user, port, and the part of the tail before its first slash. -/
theorem redactUrl_eq_iff {url url' : String} (spells : address.Spells url)
    (spells' : other.Spells url') (scheme : address.secure = other.secure)
    (host : address.host = other.host) :
    redactUrl url = redactUrl url' ↔
      address.userInfo = other.userInfo ∧ address.port = other.port ∧
        address.shownTail = other.shownTail := by
  have sameScheme : address.scheme = other.scheme := by
    rw [WebAddress.scheme, WebAddress.scheme, scheme]
  rw [redactUrl_of_spells spells, redactUrl_of_spells spells', sameScheme,
    String.append_left_inj, String.append_right_inj, ← String.toList_inj, String.toList_ofList,
    String.toList_ofList,
    append_inj_of_inside address.authority_inside other.authority_inside
      address.shownTail_outside other.shownTail_outside,
    authority_eq_iff host, and_assoc]

/-- A text is parted at its last at sign, if it has one. -/
theorem exists_credentials (text : List Char) :
    ∃ (userInfo : Option (List Char)) (host : List Char),
      text = userInfo.elim [] (· ++ ['@']) ++ host ∧ '@' ∉ host := by
  by_cases sign : '@' ∈ text
  · obtain ⟨host, user, parts, signless⟩ := List.eq_append_cons_of_mem (List.mem_reverse.2 sign)
    refine ⟨some user.reverse, host.reverse, ?_, fun mem => signless (List.mem_reverse.1 mem)⟩
    rw [← List.reverse_inj, parts]
    simp
  · exact ⟨none, text, rfl, sign⟩

/-- Every text that begins like an address is one. -/
theorem exists_spells {url : String}
    (leads : (leadsWith "http://" url || leadsWith "https://" url) = true) :
    ∃ address : WebAddress, address.Spells url := by
  have parted : ∃ (secure : Bool) (rest : List Char), Text.trim url.toList =
      (if secure then "https".toList else "http".toList) ++ "://".toList ++ rest := by
    rcases Bool.or_eq_true_iff.1 leads with plain | secure
    · obtain ⟨rest, after⟩ := Option.isSome_iff_exists.1 plain
      exact ⟨false, rest, Text.eq_append_of_afterLead? after⟩
    · obtain ⟨rest, after⟩ := Option.isSome_iff_exists.1 secure
      exact ⟨true, rest, Text.eq_append_of_afterLead? after⟩
  obtain ⟨secure, rest, whole⟩ := parted
  let inside (c : Char) : Bool := decide (c ∉ ['/', '?', '#'])
  obtain ⟨userInfo, host, parts, signless⟩ := exists_credentials (rest.takeWhile inside)
  have here : ∀ c ∈ userInfo.elim [] (· ++ ['@']) ++ host, c ∉ ['/', '?', '#'] := by
    intro c mem
    rw [← parts] at mem
    have taken : inside c = true := List.mem_takeWhile_imp mem
    exact of_decide_eq_true taken
  have inUser : ∀ user ∈ userInfo, ∀ c ∈ user, c ∉ ['/', '?', '#'] := by
    rintro user rfl c mem
    exact here c (List.mem_append_left host (List.mem_append_left ['@'] mem))
  have inHost : ∀ c ∈ host ++ [], c ∉ ['/', '?', '#', '@'] := by
    intro c mem sign
    rw [List.append_nil] at mem
    rcases List.mem_append.1 (show c ∈ ['/', '?', '#'] ++ ['@'] from sign) with sign | sign
    · exact here c (List.mem_append_right _ mem) sign
    · exact signless (List.mem_singleton.1 sign ▸ mem)
  have behind : ∀ c ∈ (rest.dropWhile inside).head?, c ∈ ['/', '?', '#'] := by
    intro c mem
    have stops := List.head?_dropWhile_not inside rest
    rw [Option.mem_def.1 mem] at stops
    exact not_not.1 (of_decide_eq_false stops)
  refine ⟨⟨secure, userInfo, host, [], rest.dropWhile inside, inUser, inHost, behind⟩, ?_⟩
  rw [Spells, whole, text, authority, credentials, List.append_nil, ← parts,
    List.takeWhile_append_dropWhile]
  rfl

end WebAddress

end ChatRobots
