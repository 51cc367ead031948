/-
Module: ChatRobots.Proofs.Config.Interpolation
Purpose: The text that comes of inserting values depends on the variables that it names, and values
  are inserted one after another, each into its own place.
Main exports: closeName?_eq_some, Mentions, interpolateChars_congr, interpolate_congr,
  interpolateChars_append, interpolate_piecewise
-/
import ChatRobots.Config.Load

namespace ChatRobots

/-!
A text with names in it is gone through from its beginning to its end.  Where it can be cut, the
parts can be gone through one by one.  It cannot be cut within a name, and not between a dollar sign
and the brace behind it; everywhere else it can, so what was inserted for a name is never looked at
when the rest of the text is.
-/

/-- A name that is closed ends at the first closing brace. -/
theorem closeName?_eq_some {text name rest : List Char}
    (closed : closeName? text = some (name, rest)) :
    text = name ++ '\x7d' :: rest ∧ '\x7d' ∉ name := by
  induction text generalizing name with
  | nil => cases closed
  | cons c text ih =>
      rw [closeName?] at closed
      split at closed
      · rename_i brace
        cases closed
        exact ⟨congrArg (· :: rest) brace, List.not_mem_nil⟩
      · rename_i inside
        obtain ⟨⟨others, after⟩, later, same⟩ := Option.map_eq_some_iff.1 closed
        cases same
        obtain ⟨rfl, braceless⟩ := ih later
        refine ⟨rfl, fun mem => ?_⟩
        rcases List.mem_cons.1 mem with here | behind
        · exact inside here.symm
        · exact braceless behind

/-- Somewhere in the text the variable stands between a dollar sign with an opening brace and a
closing one. -/
def Mentions (text : List Char) (name : String) : Prop :=
  ∃ before after, text = before ++ '$' :: '\x7b' :: (name.toList ++ '\x7d' :: after) ∧
    '\x7d' ∉ name.toList

theorem Mentions.cons {text : List Char} {name : String} (mentioned : Mentions text name)
    (c : Char) :
    Mentions (c :: text) name := by
  obtain ⟨before, after, rfl, braceless⟩ := mentioned
  exact ⟨c :: before, after, rfl, braceless⟩

theorem Mentions.append {text : List Char} {name : String} (mentioned : Mentions text name)
    (first : List Char) : Mentions (first ++ text) name := by
  obtain ⟨before, after, rfl, braceless⟩ := mentioned
  exact ⟨first ++ before, after, by simp, braceless⟩

theorem mentions_of_closed {text name rest : List Char}
    (closed : closeName? text = some (name, rest)) :
    Mentions ('$' :: '\x7b' :: text) (String.ofList name) := by
  obtain ⟨rfl, braceless⟩ := closeName?_eq_some closed
  exact ⟨[], rest, by rw [String.toList_ofList]; rfl, by rwa [String.toList_ofList]⟩

section Steps

variable (value? : String → Option String)

/-- One step at a name. -/
theorem interpolateChars_name (text : List Char) :
    interpolateChars value? ('$' :: '\x7b' :: text) =
      match closeName? text with
      | none => .error .unterminated
      | some (name, rest) =>
          match value? (String.ofList name) with
          | none => .error (.unset (String.ofList name))
          | some value => (value.toList ++ ·) <$> interpolateChars value? rest := by
  rw [interpolateChars]
  split
  · rename_i closed
    rw [closed]
  · rename_i name rest closed
    rw [closed]
    dsimp only
    cases value? (String.ofList name) <;> rfl

/-- One step anywhere else. -/
theorem interpolateChars_plain {c : Char} {text : List Char}
    (plain : ∀ rest, c = '$' → text = '\x7b' :: rest → False) :
    interpolateChars value? (c :: text) = (c :: ·) <$> interpolateChars value? text := by
  rw [interpolateChars]
  · rfl
  · exact plain

end Steps

/-- Only the variables that are named are looked up. -/
theorem interpolateChars_congr {value? value?' : String → Option String} (text : List Char)
    (same : ∀ name, Mentions text name → value? name = value?' name) :
    interpolateChars value? text = interpolateChars value?' text := by
  induction text using interpolateChars.induct value? with
  | case1 => rw [interpolateChars, interpolateChars]
  | case2 text closed =>
      rw [interpolateChars_name, interpolateChars_name, closed]
  | case3 text name rest closed unset =>
      have unset' : value?' (String.ofList name) = none :=
        (same _ (mentions_of_closed closed)).symm.trans unset
      rw [interpolateChars_name, interpolateChars_name, closed]
      dsimp only
      rw [unset, unset']
  | case4 text name rest closed value set ih =>
      have set' : value?' (String.ofList name) = some value :=
        (same _ (mentions_of_closed closed)).symm.trans set
      have behind : '$' :: '\x7b' :: text = ('$' :: '\x7b' :: name ++ ['\x7d']) ++ rest := by
        rw [(closeName?_eq_some closed).1]
        simp
      have later : interpolateChars value? rest = interpolateChars value?' rest :=
        ih fun other mentioned => same other (behind ▸ mentioned.append _)
      rw [interpolateChars_name, interpolateChars_name, closed]
      dsimp only
      rw [set, set', later]
  | case5 c text plain ih =>
      rw [interpolateChars_plain value? plain, interpolateChars_plain value?' plain]
      rw [ih fun other mentioned => same other (mentioned.cons c)]

theorem interpolate_congr {env env' : Environment} {text : String}
    (same : ∀ name, Mentions text.toList name → env.value? name = env'.value? name) :
    interpolate env text = interpolate env' text := by
  rw [interpolate, interpolate, interpolateChars_congr text.toList same]

section Parts

variable {value? : String → Option String} {first second inserted : List Char}

/-- A name stays closed where it was, whatever is written behind the text. -/
theorem closeName?_append_right {text name rest : List Char}
    (closed : closeName? text = some (name, rest)) (more : List Char) :
    closeName? (text ++ more) = some (name, rest ++ more) := by
  obtain ⟨rfl, braceless⟩ := closeName?_eq_some closed
  rw [List.append_assoc, List.cons_append, closeName?_append braceless]

/-- What has come of inserting behind something has come of inserting. -/
theorem interpolateChars_eq_of_map {text before after : List Char}
    (done : (before ++ ·) <$> interpolateChars value? text = .ok after) :
    ∃ later, interpolateChars value? text = .ok later ∧ after = before ++ later := by
  cases went : interpolateChars value? text with
  | error error =>
      rw [went] at done
      cases done
  | ok later =>
      rw [went] at done
      cases done
      exact ⟨later, rfl, rfl⟩

theorem map_append_map (before between : List Char)
    (result : Except InterpolationError (List Char)) :
    (before ++ ·) <$> (between ++ ·) <$> result = (before ++ between ++ ·) <$> result := by
  cases result with
  | error error => rfl
  | ok text => exact congrArg Except.ok (List.append_assoc before between text).symm

/-- After a text that was gone through, what follows is gone through on its own.  The cut must not
fall between a dollar sign and an opening brace. -/
theorem interpolateChars_append (done : interpolateChars value? first = .ok inserted)
    (apart : ∀ before after, first = before ++ ['$'] → second = '\x7b' :: after → False) :
    interpolateChars value? (first ++ second) =
      (inserted ++ ·) <$> interpolateChars value? second := by
  induction first using interpolateChars.induct value? generalizing inserted with
  | case1 =>
      rw [interpolateChars] at done
      cases done
      exact (id_map _).symm
  | case2 text closed =>
      rw [interpolateChars_name, closed] at done
      cases done
  | case3 text name rest closed unset =>
      rw [interpolateChars_name, closed] at done
      dsimp only at done
      rw [unset] at done
      cases done
  | case4 text name rest closed value set ih =>
      rw [interpolateChars_name, closed] at done
      dsimp only at done
      rw [set] at done
      obtain ⟨later, went, rfl⟩ := interpolateChars_eq_of_map done
      have behind : '$' :: '\x7b' :: text = ('$' :: '\x7b' :: name ++ ['\x7d']) ++ rest := by
        rw [(closeName?_eq_some closed).1]
        simp
      have apart' : ∀ before after, rest = before ++ ['$'] → second = '\x7b' :: after → False :=
        fun before after ends => apart ('$' :: '\x7b' :: name ++ ['\x7d'] ++ before) after
          (by simp only [behind, ends, List.append_assoc])
      rw [List.cons_append, List.cons_append, interpolateChars_name,
        closeName?_append_right closed second]
      dsimp only
      rw [set, ih went apart', ← map_append_map]
  | case5 c text plain ih =>
      rw [interpolateChars_plain value? plain] at done
      have behind : ([c] ++ ·) <$> interpolateChars value? text = .ok inserted := done
      obtain ⟨later, went, rfl⟩ := interpolateChars_eq_of_map behind
      have apart' : ∀ before after, text = before ++ ['$'] → second = '\x7b' :: after → False :=
        fun before after ends => apart (c :: before) after (congrArg (c :: ·) ends)
      have plain' : ∀ rest, c = '$' → text ++ second = '\x7b' :: rest → False := by
        intro rest dollar brace
        cases text with
        | nil => exact apart [] rest (congrArg (· :: []) dollar) brace
        | cons d text =>
            obtain ⟨rfl, -⟩ := List.cons.inj brace
            exact plain text dollar rfl
      rw [List.cons_append, interpolateChars_plain value? plain', ih went apart']
      exact map_append_map [c] later _

/-- A text without a dollar sign before a brace stays as it is. -/
theorem interpolateChars_of_nameless {text : List Char}
    (nameless : ¬ ['$', '\x7b'] <:+: text) : interpolateChars value? text = .ok text := by
  induction text with
  | nil => rw [interpolateChars]
  | cons c text ih =>
      have plain : ∀ rest, c = '$' → text = '\x7b' :: rest → False := by
        rintro rest rfl rfl
        exact nameless ⟨[], rest, rfl⟩
      rw [interpolateChars_plain value? plain, ih fun within => nameless (List.infix_cons within)]
      rfl

end Parts

section Texts

variable {env : Environment} {text first inserted : String}

theorem interpolate_eq_ok_iff :
    interpolate env text = .ok inserted ↔
      interpolateChars env.value? text.toList = .ok inserted.toList := by
  rw [interpolate]
  cases interpolateChars env.value? text.toList with
  | error error => simp only [Except.map, reduceCtorEq]
  | ok chars =>
      simp only [Except.map, Except.ok.injEq]
      constructor
      · rintro rfl
        exact String.toList_ofList.symm
      · rintro rfl
        exact String.ofList_toList

theorem interpolate_of_nameless (nameless : ¬ ['$', '\x7b'] <:+: text.toList) :
    interpolate env text = .ok text :=
  interpolate_eq_ok_iff.2 (interpolateChars_of_nameless nameless)

/-- What stands behind a text that was gone through, with a dollar sign in front. -/
theorem interpolate_append_name (done : interpolate env first = .ok inserted) (rest : List Char) :
    interpolateChars env.value? (first.toList ++ '$' :: rest) =
      (inserted.toList ++ ·) <$> interpolateChars env.value? ('$' :: rest) := by
  apply interpolateChars_append (interpolate_eq_ok_iff.1 done)
  rintro before after - isBrace
  exact absurd (List.cons.inj isBrace).1 (by decide)

/-- A file into which no values can be inserted makes no settings. -/
theorem readPatch_of_interpolate_error {files : Files} {path : String}
    (read : files.readText path = .ok text) :
    (∀ name, interpolate env text = .error (.unset name) →
      readPatch files env path = .error (.unsetVariable name)) ∧
    (interpolate env text = .error .unterminated →
      readPatch files env path = .error .unterminatedName) := by
  constructor
  · intro name failed
    rw [readPatch, read]
    show ((interpolate env text).mapError _ >>= _) = _
    rw [failed]
    rfl
  · intro failed
    rw [readPatch, read]
    show ((interpolate env text).mapError _ >>= _) = _
    rw [failed]
    rfl

/-- Values are inserted piece by piece and once.  Behind a text that was gone through, a name is
replaced by the value of its variable, which is not gone through itself, and what follows the name
is gone through on its own; a variable that is not set, and a name that does not end, are errors of
the file. -/
theorem interpolate_piecewise (done : interpolate env first = .ok inserted) :
    (∀ name rest : String, '\x7d' ∉ name.toList →
      interpolate env (first ++ "$\x7b" ++ name ++ "\x7d" ++ rest) =
        match env.value? name with
        | none => .error (.unset name)
        | some value => (interpolate env rest).map (inserted ++ value ++ ·)) ∧
    (∀ text : String, ¬ ['$', '\x7b'] <:+: text.toList → interpolate env text = .ok text) ∧
    (∀ rest : String, '\x7d' ∉ rest.toList →
      interpolate env (first ++ "$\x7b" ++ rest) = .error .unterminated) ∧
    (∀ files path text, files.readText path = .ok text →
      (∀ name, interpolate env text = .error (.unset name) →
        readPatch files env path = .error (.unsetVariable name)) ∧
      (interpolate env text = .error .unterminated →
        readPatch files env path = .error .unterminatedName)) := by
  refine ⟨?named, ?nameless, ?unterminated, fun _ _ _ => readPatch_of_interpolate_error⟩
  case named =>
    intro name rest braceless
    have chars : (first ++ "$\x7b" ++ name ++ "\x7d" ++ rest).toList =
        first.toList ++ '$' :: '\x7b' :: (name.toList ++ '\x7d' :: rest.toList) := by
      simp
    rw [interpolate, chars, interpolate_append_name done, interpolateChars_name,
      closeName?_append braceless]
    dsimp only
    rw [String.ofList_toList]
    cases env.value? name with
    | none => rfl
    | some value =>
        rw [interpolate]
        cases interpolateChars env.value? rest.toList with
        | error error => rfl
        | ok later =>
            show Except.ok _ = Except.ok _
            simp [← String.toList_inj]
  case nameless =>
    intro text nameless
    exact interpolate_of_nameless nameless
  case unterminated =>
    intro rest braceless
    have chars : (first ++ "$\x7b" ++ rest).toList =
        first.toList ++ '$' :: '\x7b' :: rest.toList := by
      simp
    rw [interpolate, chars, interpolate_append_name done, interpolateChars_name,
      closeName?_eq_none braceless]
    rfl

/-- An environment in which the value of a variable looks like a name. -/
def nestedVariables : Environment :=
  ⟨[("NESTED", "$\x7bPORT\x7d"), ("PORT", "80")]⟩

/-- A value that looks like a name is left as it is, behind a dollar sign as anywhere else. -/
theorem nested_inserted_once :
    interpolate nestedVariables "$\x7bPORT\x7d$" = .ok "80$" ∧ '\x7d' ∉ "NESTED".toList ∧
      interpolate nestedVariables
          ("$\x7bPORT\x7d$" ++ "$\x7b" ++ "NESTED" ++ "\x7d" ++ "/$\x7bPORT\x7d") =
        .ok "80$$\x7bPORT\x7d/80" ∧
      interpolate nestedVariables ("$\x7bPORT\x7d$" ++ "$\x7b" ++ "HOST" ++ "\x7d" ++ "") =
        .error (.unset "HOST") ∧
      interpolate nestedVariables ("$\x7bPORT\x7d$" ++ "$\x7b" ++ "PORT") =
        .error .unterminated := by
  have same (text : String) (nameless : ¬ ['$', '\x7b'] <:+: text.toList) :
      interpolate nestedVariables text = .ok text := interpolate_of_nameless nameless
  have done : interpolate nestedVariables "$\x7bPORT\x7d$" = .ok "80$" := by
    obtain ⟨named, -⟩ := interpolate_piecewise (same "" (by decide))
    have put := named "PORT" "$" (by decide)
    rw [same "$" (by decide)] at put
    exact put
  have later : interpolate nestedVariables "/$\x7bPORT\x7d" = .ok "/80" := by
    obtain ⟨named, -⟩ := interpolate_piecewise (same "/" (by decide))
    have put := named "PORT" "" (by decide)
    rw [same "" (by decide)] at put
    exact put
  obtain ⟨named, -, unterminated, -⟩ := interpolate_piecewise done
  refine ⟨done, by decide, ?_, ?_, unterminated "PORT" (by decide)⟩
  · rw [named "NESTED" _ (by decide), later]
    rfl
  · exact named "HOST" "" (by decide)

end Texts

end ChatRobots
