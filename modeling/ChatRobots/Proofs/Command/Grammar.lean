/-
Module: ChatRobots.Proofs.Command.Grammar
Purpose: The grammar by which the text of a command is read.
Main exports: Command.Line, Command.Line.text, Command.Line.exists_of_trimmed, Command.Reads,
  Command.Reads.alike, Command.reads_of_trim_eq, Command.parse_grammar
-/
import ChatRobots.Command
import ChatRobots.Proofs.Dictionary
import ChatRobots.Proofs.Text.Trimming

namespace ChatRobots

/-!
A command is written as a line: a verb, and tokens behind runs of spaces.  Every text that is not
blank is such a line once the blanks at its ends are gone, and it is one in a single way, because
the spaces are all that separates.  What a command has is told here from the line alone: the tokens
without a colon are its arguments, and of the tokens that name a key before their first colon the
last one gives the parameter its value.
-/

namespace Text

variable {part text : List Char}

theorem words_space (text : List Char) : words ' ' (' ' :: text) = words ' ' text := by
  simp [words, pieces_cons_same]

/-- Further spaces separate nothing more. -/
theorem words_spaces (count : Nat) (text : List Char) :
    words ' ' (List.replicate count ' ' ++ text) = words ' ' text := by
  induction count with
  | zero => rfl
  | succ count ih => rw [List.replicate_succ, List.cons_append, words_space, ih]

theorem words_part (filled : part ≠ []) (whole : ' ' ∉ part) : words ' ' part = [part] := by
  simp [words, pieces_eq_self whole, filled]

/-- A word ends at the space behind it. -/
theorem words_part_append (filled : part ≠ []) (whole : ' ' ∉ part) (text : List Char) :
    words ' ' (part ++ ' ' :: text) = part :: words ' ' text := by
  simp [words, pieces_append_cons whole, filled]

end Text

namespace Command

/-- A part of a line is not empty and has no space in it. -/
structure IsPart (part : List Char) : Prop where
  filled : part ≠ []
  whole : ' ' ∉ part

instance (part : List Char) : Decidable (IsPart part) :=
  decidable_of_iff (part ≠ [] ∧ ' ' ∉ part)
    ⟨fun ⟨filled, whole⟩ => ⟨filled, whole⟩, fun part => ⟨part.filled, part.whole⟩⟩

/-- A verb and the tokens after it, each with the number of spaces before it beyond the first. -/
structure Line where
  verb : List Char
  entries : List (Nat × List Char)

namespace Line

/-- The tokens, without regard to the spaces before them. -/
def tokens (line : Line) : List (List Char) :=
  line.entries.map (·.2)

/-- The tokens, each behind its run of spaces. -/
def spread (entries : List (Nat × List Char)) : List Char :=
  entries.flatMap fun (more, token) => List.replicate (more + 1) ' ' ++ token

def text (line : Line) : List Char :=
  line.verb ++ spread line.entries

/-- Verb and tokens are parts. -/
structure WellFormed (line : Line) : Prop where
  verb : IsPart line.verb
  tokens : ∀ token ∈ line.tokens, IsPart token

/-- Nothing in the verb and in the tokens is blank. -/
structure IsSolid (line : Line) : Prop where
  verb : Text.Solid line.verb
  tokens : ∀ token ∈ line.tokens, Text.Solid token

theorem spread_cons (more : Nat) (token : List Char) (entries : List (Nat × List Char)) :
    spread ((more, token) :: entries) =
      ' ' :: (List.replicate more ' ' ++ (token ++ spread entries)) := by
  simp [spread, List.replicate_succ]

/-- The tokens are found again between the spaces. -/
theorem words_spread {entries : List (Nat × List Char)}
    (parts : ∀ token ∈ entries.map (·.2), IsPart token) :
    Text.words ' ' (spread entries) = entries.map (·.2) := by
  induction entries with
  | nil => rfl
  | cons entry entries ih =>
      obtain ⟨more, token⟩ := entry
      simp only [List.map_cons, List.forall_mem_cons] at parts
      obtain ⟨⟨filled, whole⟩, others⟩ := parts
      rw [spread_cons, Text.words_space, Text.words_spaces, List.map_cons, ← ih others]
      cases entries with
      | nil =>
          have alone : token ++ spread [] = token := List.append_nil token
          rw [alone, Text.words_part filled whole]
          rfl
      | cons next entries =>
          obtain ⟨more', token'⟩ := next
          rw [spread_cons, Text.words_part_append filled whole, Text.words_space]

/-- A text that does not end in a space is a part that may be empty, and tokens behind spaces. -/
theorem exists_spread {text : List Char} (ends : ∀ c ∈ text.getLast?, c ≠ ' ') :
    ∃ part entries, ' ' ∉ part ∧ (∀ token ∈ entries.map (·.2), IsPart token) ∧
      text = part ++ spread entries := by
  induction text with
  | nil => exact ⟨[], [], by simp, by simp, rfl⟩
  | cons c text ih =>
      have later : ∀ d ∈ text.getLast?, d ≠ ' ' := by
        intro d last
        apply ends d
        cases text with
        | nil => simp at last
        | cons _ _ => rwa [List.getLast?_cons_cons]
      obtain ⟨part, entries, whole, parts, rfl⟩ := ih later
      by_cases space : c = ' '
      · subst space
        rcases part.eq_nil_or_concat with rfl | ⟨_, _, rfl⟩
        · -- The space belongs to the run before the next token, and there is a next one.
          cases entries with
          | nil => simp [spread] at ends
          | cons entry entries =>
              obtain ⟨more, token⟩ := entry
              refine ⟨[], (more + 1, token) :: entries, by simp, parts, ?_⟩
              simp [spread_cons, List.replicate_succ]
        · refine ⟨[], (0, _) :: entries, by simp, ?_, (spread_cons 0 _ entries).symm⟩
          simp only [List.map_cons, List.forall_mem_cons]
          exact ⟨⟨by simp, whole⟩, parts⟩
      · refine ⟨c :: part, entries, ?_, parts, rfl⟩
        simpa [Ne.symm space] using whole

/-- Every trimmed text that is not empty is a line. -/
theorem exists_of_trimmed {text : List Char} (trimmed : Text.Trimmed text) (filled : text ≠ []) :
    ∃ line : Line, line.WellFormed ∧ text = line.text := by
  have not_space {c : Char} (solid : Text.isBlank c = false) : c ≠ ' ' := by
    rintro rfl
    revert solid
    decide
  obtain ⟨part, entries, whole, parts, rfl⟩ :=
    exists_spread fun c last => not_space (trimmed.2 c last)
  refine ⟨⟨part, entries⟩, ⟨⟨?_, whole⟩, parts⟩, rfl⟩
  rintro rfl
  cases entries with
  | nil => exact filled rfl
  | cons entry entries =>
      have first := trimmed.1 ' '
      rw [List.nil_append, spread_cons] at first
      exact not_space (first rfl) rfl

/-- The last character of a line is that of its last part. -/
theorem getLast?_text {line : Line} (parts : line.WellFormed) :
    line.text.getLast? = (line.tokens.getLast?.getD line.verb).getLast? := by
  obtain ⟨verb, entries⟩ := line
  rcases entries.eq_nil_or_concat with rfl | ⟨earlier, ⟨more, token⟩, rfl⟩
  · simp [text, tokens, spread]
  · have filled : token ≠ [] := (parts.tokens token (by simp [tokens])).filled
    have last := List.getLast?_eq_some_getLast filled
    simp [text, tokens, spread, List.getLast?_append, last]

/-- A line without blanks in its parts has none at its ends. -/
theorem IsSolid.trimmed {line : Line} (solid : line.IsSolid) (parts : line.WellFormed) :
    Text.Trimmed line.text := by
  constructor
  · intro c first
    have begins : line.text.head? = line.verb.head? := by
      rw [text, List.head?_append_of_ne_nil _ parts.verb.filled]
    rw [begins] at first
    exact solid.verb c (List.mem_of_mem_head? first)
  · intro c last
    rw [getLast?_text parts] at last
    have member := List.mem_of_mem_getLast? last
    cases ending : line.tokens.getLast? with
    | none =>
        rw [ending] at member
        exact solid.verb c member
    | some token =>
        rw [ending] at member
        exact solid.tokens token (List.mem_of_getLast? ending) c member

end Line

/-- The part before the first colon of the token is the key. -/
def Names (key token : List Char) : Prop :=
  ':' ∉ key ∧ ∃ value, token = key ++ ':' :: value

/-- The last token that names the key has the value behind its first colon. -/
def Gives (tokens : List (List Char)) (key value : List Char) : Prop :=
  ':' ∉ key ∧ ∃ earlier later, tokens = earlier ++ (key ++ ':' :: value) :: later ∧
    ∀ token ∈ later, ¬ Names key token

/-- The command has this verb and just what these tokens say. -/
structure Reads (command : Command) (verb : List Char) (tokens : List (List Char)) : Prop where
  verb : command.verb = String.ofList verb
  /-- The arguments are the tokens without a colon, in order. -/
  args : command.args = (tokens.filter fun token => ':' ∉ token).map String.ofList
  strFrom (place : Nat) : command.strFrom place = " ".intercalate
    (((tokens.filter fun token => ':' ∉ token).drop place).map String.ofList)
  /-- A parameter has the value that was given last. -/
  param {key value : List Char} (given : Gives tokens key value) :
    command.param (String.ofList key) = String.ofList value
  /-- A parameter is there when a token names it, and only then. -/
  params (key : String) :
    key ∈ command.params.keys ↔ ∃ token ∈ tokens, Names key.toList token
  /-- A token counts as an argument or for a parameter, and never as both. -/
  once (token : List Char) (member : token ∈ tokens) :
    Xor (String.ofList token ∈ command.args)
      (∃ key ∈ command.params.keys, Names key.toList token)

section Tokens

variable {tokens : List (List Char)} {token : List Char} {key value : String}

theorem param?_eq_none_iff : param? token = none ↔ ':' ∉ token := by
  rw [param?, Option.map_eq_none_iff, Text.cut?_eq_none_iff]

theorem param?_eq_some_iff : param? token = some (key, value) ↔
    ':' ∉ key.toList ∧ token = key.toList ++ ':' :: value.toList := by
  rw [param?, Option.map_eq_some_iff]
  constructor
  · rintro ⟨⟨before, after⟩, cut, same⟩
    obtain ⟨rfl, rfl⟩ := Prod.mk.inj same
    obtain ⟨rfl, absent⟩ := Text.cut?_eq_some cut
    simpa using absent
  · rintro ⟨absent, rfl⟩
    exact ⟨_, Text.cut?_of_notMem absent _, by simp⟩

/-- A token names a key when it is a parameter under it. -/
theorem names_iff : Names key.toList token ↔ ∃ value, param? token = some (key, value) := by
  simp only [param?_eq_some_iff, exists_and_left, Names]
  refine and_congr_right fun _ => ⟨?_, ?_⟩
  · rintro ⟨value, rfl⟩
    exact ⟨String.ofList value, by simp⟩
  · rintro ⟨value, rfl⟩
    exact ⟨value.toList, rfl⟩

/-- A token with a colon names a key. -/
theorem exists_names (colon : ':' ∈ token) : ∃ key : String, Names key.toList token := by
  cases found : param? token with
  | none => exact absurd colon (param?_eq_none_iff.1 found)
  | some entry => exact ⟨entry.1, names_iff.2 ⟨entry.2, found⟩⟩

/-- What a token gives to the key, if it names it. -/
def given? (key : String) (token : List Char) : Option String :=
  (param? token).bind fun (name, value) => if key = name then some value else none

theorem given?_eq_some_iff : given? key token = some value ↔ param? token = some (key, value) := by
  rw [given?, Option.bind_eq_some_iff]
  constructor
  · rintro ⟨⟨name, given⟩, found, same⟩
    simp only [Option.ite_none_right_eq_some, Option.some.injEq] at same
    obtain ⟨rfl, rfl⟩ := same
    exact found
  · exact fun found => ⟨_, found, by simp⟩

theorem given?_eq_none_iff : given? key token = none ↔ ¬ Names key.toList token := by
  rw [names_iff, Option.eq_none_iff_forall_ne_some, not_exists]
  exact forall_congr' fun _ => not_congr given?_eq_some_iff

/-- Of the parameters one is found under the key in the order of the tokens. -/
theorem lookup_filterMap_param? (key : String) (tokens : List (List Char)) :
    (tokens.filterMap param?).lookup key = tokens.findSome? (given? key) := by
  induction tokens with
  | nil => rfl
  | cons token tokens ih =>
      rw [List.filterMap_cons, List.findSome?_cons, given?]
      cases param? token with
      | none => exact ih
      | some entry =>
          obtain ⟨name, value⟩ := entry
          dsimp only
          rw [Dictionary.lookup_cons_eq, ih]
          by_cases same : key = name <;> simp [same]

/-- Under a key stands what the last token says that names it. -/
theorem find?_paramsOf :
    (paramsOf tokens).find? key = some value ↔ Gives tokens key.toList value.toList := by
  rw [paramsOf, Dictionary.ofList, Dictionary.find?_putAll, Dictionary.find?_empty, Option.or_none,
    ← List.filterMap_reverse, lookup_filterMap_param?, List.findSome?_eq_some_iff]
  constructor
  · rintro ⟨later, token, earlier, split, found, silent⟩
    obtain ⟨absent, rfl⟩ := param?_eq_some_iff.1 (given?_eq_some_iff.1 found)
    refine ⟨absent, earlier.reverse, later.reverse, ?_, ?_⟩
    · rw [← List.reverse_reverse tokens, split]
      simp
    · intro token member
      exact given?_eq_none_iff.1 (silent token (List.mem_reverse.1 member))
  · rintro ⟨absent, earlier, later, rfl, silent⟩
    refine ⟨later.reverse, key.toList ++ ':' :: value.toList, earlier.reverse, by simp, ?_, ?_⟩
    · exact given?_eq_some_iff.2 (param?_eq_some_iff.2 ⟨absent, rfl⟩)
    · intro token member
      exact given?_eq_none_iff.2 (silent token (List.mem_reverse.1 member))

/-- If some token names a key, then there is a last one, and it gives the value. -/
theorem exists_gives {key : List Char} (named : ∃ token ∈ tokens, Names key token) :
    ∃ value, Gives tokens key value := by
  induction tokens with
  | nil => simp at named
  | cons first rest ih =>
      by_cases again : ∃ token ∈ rest, Names key token
      · obtain ⟨value, absent, earlier, later, rfl, silent⟩ := ih again
        exact ⟨value, absent, first :: earlier, later, rfl, silent⟩
      · obtain ⟨token, member, names⟩ := named
        rcases List.mem_cons.1 member with rfl | inRest
        · obtain ⟨absent, value, rfl⟩ := names
          exact ⟨value, absent, [], rest, rfl,
            fun token member names => again ⟨token, member, names⟩⟩
        · exact absurd ⟨token, inRest, names⟩ again

theorem mem_keys_paramsOf :
    key ∈ (paramsOf tokens).keys ↔ ∃ token ∈ tokens, Names key.toList token := by
  rw [Dictionary.mem_keys_iff, Option.isSome_iff_exists]
  constructor
  · rintro ⟨value, found⟩
    obtain ⟨absent, earlier, later, rfl, -⟩ := find?_paramsOf.1 found
    exact ⟨_, List.mem_append_right _ List.mem_cons_self, absent, _, rfl⟩
  · intro named
    obtain ⟨value, given⟩ := exists_gives named
    exact ⟨String.ofList value, find?_paramsOf.2 (by simpa using given)⟩

theorem argsOf_eq (tokens : List (List Char)) :
    argsOf tokens = (tokens.filter fun token => ':' ∉ token).map String.ofList := by
  rw [argsOf]
  refine congrArg (List.map String.ofList) (List.filter_congr fun token _ => ?_)
  rw [Bool.eq_iff_iff, Option.isNone_iff_eq_none, param?_eq_none_iff, decide_eq_true_eq]

/-- A command that is made of a verb and tokens reads as them. -/
theorem reads_mk (verb : List Char) (tokens : List (List Char)) (rawArgs : String) :
    Reads ⟨String.ofList verb, argsOf tokens, paramsOf tokens, rawArgs⟩ verb tokens where
  verb := rfl
  args := argsOf_eq tokens
  strFrom place := by
    rw [strFrom, argsOf_eq, List.map_drop]
  param {key value} given := by
    have found : (paramsOf tokens).find? (String.ofList key) = some (String.ofList value) :=
      find?_paramsOf.2 (by simpa using given)
    rw [param, found]
    rfl
  params key := mem_keys_paramsOf
  once token member := by
    by_cases colon : ':' ∈ token
    · refine .inr ⟨?_, ?_⟩
      · obtain ⟨key, names⟩ := exists_names colon
        exact ⟨key, mem_keys_paramsOf.2 ⟨token, member, names⟩, names⟩
      · simpa [argsOf_eq, String.ofList_inj] using fun _ => colon
    · refine .inl ⟨?_, ?_⟩
      · simpa [argsOf_eq, String.ofList_inj] using ⟨member, colon⟩
      · rintro ⟨key, -, -, value, rfl⟩
        simp at colon

end Tokens

/-- What reads as one verb and the same tokens has the same verb, arguments and parameters. -/
theorem Reads.alike {command command' : Command} {verb : List Char} {tokens : List (List Char)}
    (reads : command.Reads verb tokens) (reads' : command'.Reads verb tokens) :
    command.verb = command'.verb ∧ command.args = command'.args ∧
      command.params = command'.params := by
  refine ⟨reads.verb.trans reads'.verb.symm, reads.args.trans reads'.args.symm, ?_⟩
  apply Dictionary.eq_of_find?_eq
  intro key
  by_cases named : ∃ token ∈ tokens, Names key.toList token
  · obtain ⟨value, given⟩ := exists_gives named
    obtain ⟨found, here⟩ := Option.isSome_iff_exists.1
      (Dictionary.mem_keys_iff.1 ((reads.params key).2 named))
    obtain ⟨found', here'⟩ := Option.isSome_iff_exists.1
      (Dictionary.mem_keys_iff.1 ((reads'.params key).2 named))
    have same := (reads.param given).trans (reads'.param given).symm
    rw [String.ofList_toList, Command.param, Command.param, here, here'] at same
    rw [here, here']
    exact congrArg some same
  · have silent := (reads.params key).not.2 named
    have silent' := (reads'.params key).not.2 named
    rw [Dictionary.mem_keys_iff, Option.not_isSome_iff_eq_none] at silent silent'
    rw [silent, silent']

/-- A text that trims to a line is read as the parts of the line. -/
theorem reads_of_trim_eq {raw : String} {line : Line} (parts : line.WellFormed)
    (trims : Text.trim raw.toList = line.text) : (parse raw).Reads line.verb line.tokens := by
  obtain ⟨verb, entries⟩ := line
  cases entries with
  | nil =>
      have uncut : Text.cut? ' ' (Text.trim raw.toList) = none := by
        rw [trims, Text.cut?_eq_none_iff, Line.text, Line.spread, List.flatMap_nil, List.append_nil]
        exact parts.verb.whole
      have alone : Text.trim raw.toList = verb := by simpa [Line.text, Line.spread] using trims
      rw [parse, uncut, alone]
      exact reads_mk verb [] ""
  | cons entry entries =>
      obtain ⟨more, token⟩ := entry
      have cut : Text.cut? ' ' (Text.trim raw.toList) =
          some (verb, List.replicate more ' ' ++ (token ++ Line.spread entries)) := by
        rw [trims, Line.text, Line.spread_cons]
        exact Text.cut?_of_notMem parts.verb.whole _
      have tokens : Text.words ' ' (List.replicate more ' ' ++ (token ++ Line.spread entries)) =
          Line.tokens ⟨verb, (more, token) :: entries⟩ := by
        rw [← Text.words_space, ← Line.spread_cons]
        exact Line.words_spread parts.tokens
      rw [parse, cut]
      dsimp only
      rw [tokens]
      exact reads_mk _ _ _

/-- What follows a verb is kept as it is, but for the blanks at its ends. -/
theorem parse_verb_append {verb : String} (filled : verb.toList ≠ [])
    (solid : Text.Solid verb.toList) (rest : String) :
    (parse (verb ++ " " ++ rest)).verb = verb ∧
      (parse (verb ++ " " ++ rest)).rawArgs = String.ofList (Text.trim rest.toList) := by
  have written : (verb ++ " " ++ rest).toList = verb.toList ++ ' ' :: rest.toList := by
    simp
  rw [parse, written, Text.trim_word_append filled solid.trimmed,
    Text.cut?_word_append solid.space_not_mem]
  by_cases blank : Text.Blank rest.toList
  · rw [if_pos blank, Text.trimEnd_space_cons blank, List.append_nil, Text.trim_eq_nil_iff.2 blank]
    exact ⟨String.ofList_toList, rfl⟩
  · rw [if_neg blank]
    exact ⟨String.ofList_toList, congrArg String.ofList (Text.trim_trimEnd rest.toList)⟩

/-- A command is read by the grammar of lines.  A blank text is the command without a verb; every
other text is a line, up to the blanks at its ends, and is read as its verb and its tokens.  Every
line whose parts have no blanks in them is read as its parts, whatever blanks stand around it, and
how many spaces stand between its parts makes no difference. -/
theorem parse_grammar :
    (∀ raw : String, Text.trim raw.toList = [] →
      parse raw = ⟨"", [], Dictionary.empty, ""⟩) ∧
    (∀ raw : String, Text.trim raw.toList ≠ [] → ∃ line : Line, line.WellFormed ∧
      Text.trim raw.toList = line.text ∧ (parse raw).Reads line.verb line.tokens) ∧
    (∀ (line : Line) (raw : String), line.WellFormed → line.IsSolid →
      Text.Padded line.text raw.toList → (parse raw).Reads line.verb line.tokens) ∧
    ∀ (line line' : Line) (raw raw' : String), line.WellFormed → line.IsSolid →
      line'.verb = line.verb → line'.tokens = line.tokens →
      Text.Padded line.text raw.toList → Text.Padded line'.text raw'.toList →
      (parse raw).verb = (parse raw').verb ∧ (parse raw).args = (parse raw').args ∧
        (parse raw).params = (parse raw').params := by
  have padded (line : Line) (raw : String) (parts : line.WellFormed) (solid : line.IsSolid)
      (around : Text.Padded line.text raw.toList) :
      (parse raw).Reads line.verb line.tokens :=
    reads_of_trim_eq parts (around.trim_eq.trans (Text.trim_eq_self (solid.trimmed parts)))
  refine ⟨?blank, ?filled, padded, ?spacing⟩
  case blank =>
    intro raw blank
    rw [parse, blank]
    rfl
  case filled =>
    intro raw filled
    obtain ⟨line, parts, trims⟩ := Line.exists_of_trimmed (Text.trimmed_trim raw.toList) filled
    exact ⟨line, parts, trims, reads_of_trim_eq parts trims⟩
  case spacing =>
    intro line line' raw raw' parts solid verb tokens around around'
    have parts' : line'.WellFormed := ⟨verb ▸ parts.verb, tokens ▸ parts.tokens⟩
    have solid' : line'.IsSolid := ⟨verb ▸ solid.verb, tokens ▸ solid.tokens⟩
    have reads' := padded line' raw' parts' solid' around'
    rw [verb, tokens] at reads'
    exact (padded line raw parts solid around).alike reads'

/-- A verb and five tokens, with and without further spaces and blanks: the later `users` counts,
and the time keeps its second colon. -/
theorem parse_planning :
    let tokens := ["Login", "page", "users:a", "users:b,c", "at:12:30"].map String.toList
    let line : Line := ⟨"start".toList, [2, 0, 1, 0, 3].zip tokens⟩
    let plain : Line := ⟨"start".toList, [0, 0, 0, 0, 0].zip tokens⟩
    let raw := "\t start   Login page  users:a users:b,c    at:12:30 \u3000"
    let raw' := "start Login page users:a users:b,c at:12:30"
    Text.trim "\t ".toList = [] ∧ parse "\t " = ⟨"", [], Dictionary.empty, ""⟩ ∧
      Text.trim raw'.toList ≠ [] ∧
      (∃ line : Line, line.WellFormed ∧ Text.trim raw'.toList = line.text ∧
        (parse raw').Reads line.verb line.tokens) ∧
      line.WellFormed ∧ line.IsSolid ∧ plain.tokens = line.tokens ∧
      Text.Padded line.text raw.toList ∧ Text.Padded plain.text raw'.toList ∧
      (parse raw).verb = "start" ∧ (parse raw).args = ["Login", "page"] ∧
      (parse raw).strFrom 1 = "page" ∧ (parse raw).param "users" = "b,c" ∧
      (parse raw).param "at" = "12:30" ∧ (parse raw).args = (parse raw').args := by
  intro tokens line plain raw raw'
  obtain ⟨blank, filled, reads, spacing⟩ := parse_grammar
  have parts : line.WellFormed := ⟨by decide +kernel, by decide +kernel⟩
  have solid : line.IsSolid := ⟨by decide +kernel, by decide +kernel⟩
  have around : Text.Padded line.text raw.toList :=
    ⟨['\t', ' '], [' ', '\u3000'], by decide +kernel, by decide +kernel, by decide +kernel⟩
  have around' : Text.Padded plain.text raw'.toList :=
    ⟨[], [], by decide +kernel, by decide +kernel, by decide +kernel⟩
  have same : plain.tokens = line.tokens := by decide +kernel
  have blank' : Text.trim "\t ".toList = [] := by decide +kernel
  have filled' : Text.trim raw'.toList ≠ [] := by decide +kernel
  have read : (parse raw).Reads line.verb line.tokens := reads line raw parts solid around
  have users : Gives line.tokens "users".toList "b,c".toList :=
    ⟨by decide +kernel, tokens.take 3, tokens.drop 4, by decide +kernel,
      by rintro token member ⟨-, value, same⟩; simp_all [tokens]⟩
  have time : Gives line.tokens "at".toList "12:30".toList :=
    ⟨by decide +kernel, tokens.take 4, [], by decide +kernel, by simp⟩
  refine ⟨blank', blank _ blank', filled', filled raw' filled', parts, solid, same, around, around',
    ?_, ?_, ?_, ?_, ?_, (spacing line plain raw raw' parts solid rfl same around around').2.1⟩
  · exact read.verb
  · rw [read.args]
    decide +kernel
  · rw [read.strFrom]
    decide +kernel
  · exact read.param users
  · exact read.param time

end Command

end ChatRobots
