import FormulaEditor.Proofs.Json.Body

/-! # Room for nested values

A reader has room for so many containers in one another.  More room changes nothing for a text that
fits, so that what a text means does not depend on the room; a text that does not fit is the one kind
that the room tells apart.
-/

namespace FormulaEditor.Json

/-! ## More room -/

/-- Reading fails because of too many containers in one another. -/
def Read.IsTooDeep {α : Type} {s : List Glyph} (r : Read α s) : Prop :=
  ∃ container, r = .error (.tooDeep container)

/-- One reader reads what another one reads, unless that finds it too deep. -/
def Agrees (roomy narrow : Reader) : Prop := ∀ s, (narrow s).IsTooDeep ∨ roomy s = narrow s

section Agreement

variable {roomy narrow : Reader}

theorem items_agree (agrees : Agrees roomy narrow) (s : List Glyph) :
    (items narrow s).IsTooDeep ∨ items roomy s = items narrow s := by
  -- The items behind a comma are read from a shorter text.
  induction size : s.length using Nat.strongRecOn generalizing s with
  | ind n ih =>
  rw [items.eq_def roomy s, items.eq_def narrow s]
  rcases agrees s with ⟨container, deep⟩ | same
  · rw [deep]
    exact .inl ⟨container, rfl⟩
  rw [same]
  split
  · exact .inr rfl
  next item rest shorter _ =>
  split
  · exact .inr rfl
  · next behind comma =>
    have shorterBehind : (skip behind).length < n := by
      have skipped := length_skip_le behind
      have passed := length_lt_of_skip comma
      omega
    rcases ih _ shorterBehind _ rfl with ⟨container, deep⟩ | same
    · simp only [deep]
      exact .inl ⟨container, rfl⟩
    · simp only [same]
      exact .inr trivial
  · exact .inr rfl

theorem members_agree (agrees : Agrees roomy narrow) (s : List Glyph) :
    (members narrow s).IsTooDeep ∨ members roomy s = members narrow s := by
  induction size : s.length using Nat.strongRecOn generalizing s with
  | ind n ih =>
  rw [members.eq_def roomy s, members.eq_def narrow s]
  split
  swap
  · exact .inr rfl
  next afterQuote =>
  split
  · exact .inr rfl
  next name afterName shorterName _ =>
  split
  swap
  · exact .inr rfl
  next afterColon colon =>
  rcases agrees (skip afterColon) with ⟨container, deep⟩ | same
  · simp only [deep]
    exact .inl ⟨container, rfl⟩
  rw [same]
  split
  · exact .inr rfl
  next item rest shorter _ =>
  split
  · exact .inr rfl
  · next behind comma =>
    have shorterBehind : (skip behind).length < n := by
      have skipped := length_skip_le behind
      have skippedItem := length_skip_le afterColon
      have passed := length_lt_of_skip comma
      have passedColon := length_lt_of_skip colon
      simp only [List.length_cons] at size
      omega
    rcases ih _ shorterBehind _ rfl with ⟨container, deep⟩ | same
    · simp only [deep]
      exact .inl ⟨container, rfl⟩
    · simp only [same]
      exact .inr trivial
  · exact .inr rfl

theorem array_agree (agrees : Agrees roomy narrow) (s : List Glyph) :
    (array narrow s).IsTooDeep ∨ array roomy s = array narrow s := by
  rw [array, array]
  split
  · exact .inr rfl
  · rcases items_agree agrees (skip s) with ⟨container, deep⟩ | same
    · simp only [deep]
      exact .inl ⟨container, rfl⟩
    · simp only [same]
      exact .inr trivial

theorem object_agree (agrees : Agrees roomy narrow) (s : List Glyph) :
    (object narrow s).IsTooDeep ∨ object roomy s = object narrow s := by
  rw [object, object]
  split
  · exact .inr rfl
  · rcases members_agree agrees (skip s) with ⟨container, deep⟩ | same
    · simp only [deep]
      exact .inl ⟨container, rfl⟩
    · simp only [same]
      exact .inr trivial

theorem behind_agree {s : List Glyph} {wide tight : Read Json s} (first : Glyph)
    (agrees : tight.IsTooDeep ∨ wide = tight) :
    (Reading.behind first tight).IsTooDeep ∨
      Reading.behind first wide = Reading.behind first tight := by
  rcases agrees with ⟨container, rfl⟩ | rfl
  · exact .inl ⟨container, rfl⟩
  · exact .inr rfl

end Agreement

/-- Room for one container more changes nothing unless there was too little. -/
theorem value_agrees_succ (room : Nat) : Agrees (value (room + 1)) (value room) := by
  -- Only arrays and objects take room; without any they are what is too deep.
  induction room with
  | zero =>
    intro s
    rw [value.eq_def 1 s, value.eq_def 0 s]
    dsimp only
    split
    · exact .inr rfl
    · exact .inl ⟨.array, rfl⟩
    · exact .inl ⟨.object, rfl⟩
    · exact .inr rfl
    · exact .inr rfl
  | succ room ih =>
    intro s
    rw [value.eq_def (room + 1 + 1) s, value.eq_def (room + 1) s]
    dsimp only
    split
    · exact .inr rfl
    · exact behind_agree _ (array_agree ih _)
    · exact behind_agree _ (object_agree ih _)
    · exact .inr rfl
    · exact .inr rfl

theorem value_agrees {room more : Nat} (le : room ≤ more) : Agrees (value more) (value room) := by
  induction le with
  | refl => exact fun _ => .inr rfl
  | step _ ih =>
    intro s
    rcases ih s with deep | same
    · exact .inl deep
    · rw [← same]
      exact value_agrees_succ _ s

theorem value_gives_of_le {room more : Nat} (le : room ≤ more) {s rest : List Glyph} {v : Json}
    (given : (value room s).Gives v rest) : (value more s).Gives v rest := by
  rcases value_agrees le s with ⟨container, deep⟩ | same
  · rw [deep] at given
    cases given
  · rwa [same]

/-! ## What a text means -/

/-- The text is the value, up to blanks around it, whatever room that takes.  A text with a whole
number of too many digits is no value. -/
def IsTextOf (gs : List Glyph) (v : Json) : Prop :=
  ∃ room rest, (value room (skip gs)).Gives v rest ∧ skip rest = []

theorem IsTextOf.unique {gs : List Glyph} {v w : Json} (text : IsTextOf gs v)
    (text' : IsTextOf gs w) : v = w := by
  obtain ⟨room, rest, given, -⟩ := text
  obtain ⟨room', rest', given', -⟩ := text'
  have enough := value_gives_of_le (Nat.le_max_left room room') given
  have enough' := value_gives_of_le (Nat.le_max_right room room') given'
  cases enough.symm.trans enough'
  rfl

/-- A text that is found not to be too deep is read as what it means. -/
theorem readGlyphs_of_isTextOf {gs : List Glyph} {v : Json} (text : IsTextOf gs v)
    (fits : ∀ container, readGlyphs gs ≠ .error (.tooDeep container)) :
    readGlyphs gs = .ok v := by
  obtain ⟨room, rest, given, left⟩ := text
  refine readGlyphs_eq_ok_iff.mpr ⟨rest, ?_, left⟩
  -- The larger of the two rooms is compared with either of them.
  rcases value_agrees (Nat.le_max_right room nestingLimit) (skip gs) with ⟨container, deep⟩ | same
  · refine absurd ?_ (fits container)
    rw [readGlyphs, deep]
  · rw [← same]
    exact value_gives_of_le (Nat.le_max_left room nestingLimit) given

/-- The body is the value. -/
def Denotes (body : String) (v : Json) : Prop :=
  ∃ gs, bodyGlyphs? body = some gs ∧ IsTextOf gs v

theorem Denotes.unique {body : String} {v w : Json} (denotes : Denotes body v)
    (denotes' : Denotes body w) : v = w := by
  obtain ⟨gs, decoded, text⟩ := denotes
  obtain ⟨gs', decoded', text'⟩ := denotes'
  cases decoded.symm.trans decoded'
  exact text.unique text'

/-- The body holds more containers in one another than there is room for. -/
def NestsTooDeep (body : String) : Prop :=
  ∃ container, readBody body = .error (.tooDeep container)

theorem denotes_iff {body : String} (fits : ¬ NestsTooDeep body) {v : Json} :
    Denotes body v ↔ readBody body = .ok v := by
  rw [NestsTooDeep, readBody] at fits
  rw [Denotes, readBody]
  cases decoded : bodyGlyphs? body with
  | none => simp
  | some gs =>
    simp only [decoded, Option.some.injEq, exists_eq_left'] at fits ⊢
    constructor
    · intro text
      rw [readGlyphs_of_isTextOf text ?_]
      · rfl
      · intro container deep
        refine fits ⟨container, ?_⟩
        rw [deep]
        rfl
    · intro read
      cases given : readGlyphs gs with
      | error e =>
        rw [given] at read
        cases read
      | ok found =>
        rw [given] at read
        cases read
        obtain ⟨rest, given, left⟩ := readGlyphs_eq_ok_iff.mp given
        exact ⟨nestingLimit, rest, given, left⟩

/-! ## Arrays in arrays -/

/-- An empty array in so many arrays. -/
def nest : Nat → Json
  | 0 => .arr []
  | n + 1 => .arr [nest n]

/-- The text of arrays in one another. -/
def nestText (n : Nat) : String :=
  String.ofList (List.replicate (n + 1) '[' ++ List.replicate (n + 1) ']')

theorem write_nest (n : Nat) :
    (nest n).write = List.replicate (n + 1) (.char '[') ++ List.replicate (n + 1) (.char ']') := by
  induction n with
  | zero => rfl
  | succ n ih =>
    rw [nest, write_arr, List.map_singleton, enclose, List.intercalate_singleton, ih,
      List.replicate_succ (n := n + 1), List.replicate_succ' (n := n + 1)]
    simp

theorem readsBack_nest {n room : Nat} (enough : n < room) : ReadsBack room (nest n) := by
  obtain ⟨room, rfl⟩ := Nat.exists_eq_add_one_of_ne_zero (Nat.ne_zero_of_lt enough)
  induction n generalizing room with
  | zero => exact readsBack_arr nofun
  | succ n ih =>
    obtain ⟨room, rfl⟩ : ∃ k, room = k + 1 := ⟨room - 1, by omega⟩
    exact readsBack_arr (List.forall_mem_singleton.mpr (ih room (by omega)))

theorem bodyGlyphs?_nestText (n : Nat) : bodyGlyphs? (nestText n) = some (nest n).write := by
  obtain ⟨c, more, bracket, chars⟩ : ∃ c more, (c = '[' ∨ c = ']') ∧
      (nestText n).toList = '[' :: c :: more := by
    rw [nestText, String.toList_ofList]
    cases n with
    | zero => exact ⟨']', [], .inr rfl, rfl⟩
    | succ n => exact ⟨'[', _, .inl rfl, rfl⟩
  rw [bodyGlyphs?_of_marks (.inr rfl) (.inr (.inr bracket)) chars, write_nest, nestText,
    String.toList_ofList, List.map_append, List.map_replicate, List.map_replicate]

theorem denotes_nestText (n : Nat) : Denotes (nestText n) (nest n) := by
  refine ⟨_, bodyGlyphs?_nestText n, n + 1, [], ?_, rfl⟩
  have given := readsBack_nest (Nat.lt_succ_self n) [] delimits_nil
  rw [List.append_nil] at given
  exact (skip_of_value given).symm ▸ given

theorem array_of_error {inner : Reader} {s : List Glyph} {e : ReadError}
    (failed : inner (.char '[' :: s) = .error e) : array inner (.char '[' :: s) = .error e := by
  have bracket : skip (.char '[' :: s) = .char '[' :: s := rfl
  rw [array]
  split
  · next closed => cases bracket.symm.trans closed
  · have failed : inner (skip (.char '[' :: s)) = .error e := failed
    rw [items, failed]

/-- More brackets than there is room for cannot be read, whatever stands behind them. -/
theorem value_of_brackets {room n : Nat} (more : room < n) (rest : List Glyph) :
    value room (List.replicate n (.char '[') ++ rest) = .error (.tooDeep .array) := by
  induction room generalizing n with
  | zero =>
    obtain ⟨n, rfl⟩ := Nat.exists_eq_add_of_lt more
    rw [List.replicate_succ, List.cons_append, value]
  | succ room ih =>
    obtain ⟨n, rfl⟩ : ∃ k, n = k + 2 := ⟨n - 2, by omega⟩
    have inside : value room (List.replicate (n + 1) (.char '[') ++ rest) =
        .error (.tooDeep .array) := ih (by omega)
    rw [List.replicate_succ, List.cons_append] at inside
    rw [List.replicate_succ, List.replicate_succ, List.cons_append, List.cons_append, value,
      array_of_error inside]
    rfl

/-- Arrays in one another are too deep just if there are more of them than there is room for. -/
theorem nestsTooDeep_nestText_iff (n : Nat) : NestsTooDeep (nestText n) ↔ nestingLimit ≤ n := by
  constructor
  · rintro ⟨container, deep⟩
    by_contra shallow
    rw [readBody, bodyGlyphs?_nestText] at deep
    simp only [readGlyphs_write (readsBack_nest (Nat.lt_of_not_le shallow))] at deep
    cases deep
  · intro deep
    have skipped : skip (nest n).write = (nest n).write := by
      rw [write_nest, List.replicate_succ]
      rfl
    have failed : value nestingLimit (skip (nest n).write) = .error (.tooDeep .array) := by
      rw [skipped, write_nest, value_of_brackets (Nat.lt_succ_of_le deep)]
    refine ⟨.array, ?_⟩
    rw [readBody, bodyGlyphs?_nestText]
    dsimp only
    rw [readGlyphs, failed]
    rfl

end FormulaEditor.Json
