import FormulaEditor.Proofs.Suggestion.Search

/-! # Names that contain a query as it is typed

The lower case of a text depends on what stands around it by one rule alone, that of the capital
sigma at the end of a word.  So a name that contains a query as it is typed is found unless that
rule tells the query from its place in the name, and the queries that find all such names are those
whose capital sigmas are settled by the query itself.
-/

namespace FormulaEditor.Text

variable {before before' after after' front back s rest : List Char} {c : Char}

/-! ## Lower case between other texts -/

/-- Lower case of a text between `before` (nearest first) and `after`. -/
def lowerBetween (before : List Char) : List Char → List Char → List Char
  | [], _ => []
  | c :: rest, after => lowerChar before c (rest ++ after) ++ lowerBetween (c :: before) rest after

theorem lowerFrom_append (before s after : List Char) :
    lowerFrom before (s ++ after) =
      lowerBetween before s after ++ lowerFrom (s.reverse ++ before) after := by
  induction s generalizing before with
  | nil => simp [lowerBetween]
  | cons c rest ih => simp [lowerFrom, lowerBetween, ih]

theorem lowerFrom_eq_lowerBetween (before s : List Char) :
    lowerFrom before s = lowerBetween before s [] := by
  have appended := lowerFrom_append before s []
  rwa [List.append_nil, lowerFrom, List.append_nil] at appended

/-- A capital sigma between the two texts is at the end of a word. -/
def endsWord (before after : List Char) : Bool := meetsCased before && !meetsCased after

theorem lowerChar_sigma (before after : List Char) :
    lowerChar before 'Σ' after = if endsWord before after then ['ς'] else ['σ'] := rfl

theorem lowerChar_of_ne_sigma (other : c ≠ 'Σ') (before after : List Char) :
    lowerChar before c after = lowerChar [] c [] := by
  simp only [lowerChar, other, if_false]

/-- Each capital sigma of a text ends a word between `before` and `after` as the relation says of
whether it does between `before'` and `after'`. -/
def EachSigma (related : Bool → Bool → Prop) (s before after before' after' : List Char) : Prop :=
  ∀ a b, s = a ++ 'Σ' :: b →
    related (endsWord (a.reverse ++ before) (b ++ after))
      (endsWord (a.reverse ++ before') (b ++ after'))

theorem eachSigma_cons {related : Bool → Bool → Prop} :
    EachSigma related (c :: rest) before after before' after' ↔
      (c = 'Σ' → related (endsWord before (rest ++ after)) (endsWord before' (rest ++ after'))) ∧
        EachSigma related rest (c :: before) after (c :: before') after' := by
  constructor
  · refine fun each => ⟨?_, ?_⟩
    · rintro rfl
      simpa using each [] rest rfl
    · rintro a b rfl
      simpa using each (c :: a) b rfl
  · rintro ⟨first, others⟩ a b split
    cases a with
    | nil =>
      cases split
      simpa using first rfl
    | cons d a =>
      cases split
      simpa using others a b rfl

theorem lowerBetween_of_eachSigma (alike : EachSigma (· = ·) s before after before' after') :
    lowerBetween before s after = lowerBetween before' s after' := by
  induction s generalizing before before' with
  | nil => rfl
  | cons c rest ih =>
    obtain ⟨first, others⟩ := eachSigma_cons.mp alike
    rw [lowerBetween, lowerBetween, ih others]
    by_cases sigma : c = 'Σ'
    · rw [sigma, lowerChar_sigma, lowerChar_sigma, first sigma]
    · rw [lowerChar_of_ne_sigma sigma, lowerChar_of_ne_sigma sigma before']

/-- A character is lowered alike in both places, or it is a capital sigma that ends a word in the
second one only. -/
theorem lowerChar_cases
    (within : c = 'Σ' → endsWord before after = true → endsWord before' after' = true) :
    lowerChar before c after = lowerChar before' c after' ∧
        (c = 'Σ' → endsWord before after = endsWord before' after') ∨
      lowerChar before c after = ['σ'] ∧ lowerChar before' c after' = ['ς'] := by
  by_cases sigma : c = 'Σ'
  · specialize within sigma
    subst sigma
    rw [lowerChar_sigma, lowerChar_sigma]
    cases ends : endsWord before after with
    | true => exact .inl ⟨by rw [within ends], fun _ => (within ends).symm⟩
    | false =>
      cases endsWord before' after' with
      | true => exact .inr ⟨rfl, rfl⟩
      | false => exact .inl ⟨rfl, fun _ => rfl⟩
  · rw [lowerChar_of_ne_sigma sigma, lowerChar_of_ne_sigma sigma before']
    exact .inl ⟨rfl, fun isSigma => absurd isSigma sigma⟩

/-- Where more capital sigmas end words there are more final small sigmas and fewer others, and
unless these numbers differ the same capital sigmas end words. -/
theorem count_lowerBetween (within : EachSigma (· ≤ ·) s before after before' after') :
    (lowerBetween before s after).count 'ς' ≤ (lowerBetween before' s after').count 'ς' ∧
    (lowerBetween before' s after').count 'σ' ≤ (lowerBetween before s after).count 'σ' ∧
    ((lowerBetween before' s after').count 'ς' ≤ (lowerBetween before s after).count 'ς' ∨
      (lowerBetween before s after).count 'σ' ≤ (lowerBetween before' s after').count 'σ' →
        EachSigma (· = ·) s before after before' after') := by
  induction s generalizing before before' with
  | nil => exact ⟨Nat.le_refl _, Nat.le_refl _, fun _ a b empty => by simp at empty⟩
  | cons c rest ih =>
    obtain ⟨first, others⟩ := eachSigma_cons.mp within
    obtain ⟨final, small, same⟩ := ih others
    simp only [lowerBetween, List.count_append, eachSigma_cons]
    rcases lowerChar_cases first with ⟨alike, ends⟩ | ⟨lowered, lowered'⟩
    · rw [alike]
      exact ⟨by omega, by omega, fun counts => ⟨ends, same (by omega)⟩⟩
    -- One final sigma more and one other less rule out that a number is the same.
    · have counts : ['σ'].count 'ς' = 0 ∧ ['ς'].count 'ς' = 1 ∧
          ['σ'].count 'σ' = 1 ∧ ['ς'].count 'σ' = 0 := by decide
      rw [lowered, lowered', counts.1, counts.2.1, counts.2.2.1, counts.2.2.2]
      exact ⟨by omega, by omega, fun counts => absurd counts (by omega)⟩

/-! ## Sigmas that are settled -/

theorem meetsCased_append (s rest : List Char) :
    meetsCased (s ++ rest) = if s.all isCaseIgnorable then meetsCased rest else meetsCased s := by
  induction s with
  | nil => simp
  | cons c s ih =>
    by_cases ignorable : isCaseIgnorable c = true
    · simpa [meetsCased, ignorable] using ih
    · simp [meetsCased, ignorable]

theorem meetsCased_of_all (ignorable : s.all isCaseIgnorable = true) : meetsCased s = false := by
  have appended := meetsCased_append s []
  rwa [ignorable, if_pos rfl, List.append_nil] at appended

/-- A text that is met in front of another is met. -/
theorem meetsCased_append_of_meets (meets : meetsCased s = true) (rest : List Char) :
    meetsCased (s ++ rest) = true := by
  rw [meetsCased_append]
  split
  · next ignorable => rw [meetsCased_of_all ignorable] at meets; cases meets
  · exact meets

/-- Whether the capital sigmas of a text end words does not depend on the texts around it: a cased
letter comes next, or the nearest characters that count are in the text itself. -/
def SigmasSettled (s : List Char) : Prop :=
  ∀ a b, s = a ++ 'Σ' :: b → meetsCased b = true ∨
    (a.all isCaseIgnorable = false ∧ (meetsCased a.reverse = true → b.all isCaseIgnorable = false))

theorem SigmasSettled.eachSigma (settled : SigmasSettled s) (before after : List Char) :
    EachSigma (· = ·) s before after [] [] := by
  intro a b split
  rw [List.append_nil, List.append_nil]
  rcases settled a b split with next | ⟨inFront, behind⟩
  · rw [endsWord, endsWord, meetsCased_append_of_meets next, next]
    simp
  · rw [endsWord, endsWord, meetsCased_append a.reverse, List.all_reverse, inFront]
    cases meets : meetsCased a.reverse with
    | false => simp
    | true => simp [meetsCased_append b, behind meets]

/-- A capital sigma with nothing that counts in front of it does not end a word by itself, but may
behind a letter. -/
theorem eachSigma_letter_front (s : List Char) : EachSigma (· ≤ ·) s [] [] ['A'] [] := by
  rintro a b - ends
  simp only [endsWord, Bool.and_eq_true, List.append_nil] at ends ⊢
  exact ⟨meetsCased_append_of_meets ends.1 _, ends.2⟩

/-- A capital sigma with nothing that counts behind it does not end a word in front of a letter. -/
theorem eachSigma_letter_back (s : List Char) : EachSigma (· ≤ ·) s [] ['A'] [] [] := by
  rintro a b - ends
  simp only [endsWord, Bool.and_eq_true, List.append_nil, Bool.not_eq_true'] at ends ⊢
  refine ⟨ends.1, ?_⟩
  rw [← Bool.not_eq_true]
  intro meets
  rw [meetsCased_append_of_meets meets] at ends
  cases ends.2

theorem meetsCased_letter : meetsCased ['A'] = true := by decide +kernel

theorem lowerChar_letter (before after : List Char) : lowerChar before 'A' after = ['a'] := rfl

/-- A text whose lower case is in that of the same text with a letter in front or behind has settled
sigmas. -/
theorem sigmasSettled_of_infix
    (inFront : lowerFrom [] s <:+: lowerFrom [] ('A' :: s))
    (behind : lowerFrom [] s <:+: lowerFrom [] (s ++ ['A'])) : SigmasSettled s := by
  intro a b split
  by_contra unsettled
  simp only [not_or, not_and, Bool.not_eq_true, Bool.not_eq_false, Classical.not_imp] at unsettled
  obtain ⟨noNext, unsettled⟩ := unsettled
  -- The letter is no sigma in lower case, so what is found has as many of each kind.
  cases ignorable : a.all isCaseIgnorable with
  | true =>
    have fewer := inFront.count_le 'σ'
    rw [lowerFrom, lowerChar_letter, lowerFrom_eq_lowerBetween, lowerFrom_eq_lowerBetween,
      List.count_append, List.count_singleton] at fewer
    have alike := (count_lowerBetween (eachSigma_letter_front s)).2.2 (.inr (by simpa using fewer))
    have differ := alike a b split
    have none : meetsCased a.reverse = false := meetsCased_of_all (by rwa [List.all_reverse])
    simp [endsWord, meetsCased_append a.reverse, meetsCased_letter, ignorable, none,
      noNext] at differ
  | false =>
    obtain ⟨meets, ignorable⟩ := unsettled ignorable
    have fewer := behind.count_le 'ς'
    rw [lowerFrom_append, lowerFrom, lowerFrom, lowerChar_letter, lowerFrom_eq_lowerBetween,
      List.append_nil, List.count_append, List.count_singleton] at fewer
    have alike := (count_lowerBetween (eachSigma_letter_back s)).2.2 (.inl (by simpa using fewer))
    have differ := alike a b split
    simp [endsWord, meetsCased_append b, meetsCased_letter, ignorable, meets, noNext] at differ

/-! ## Longer texts -/

/-- A trimmed text is part of the same text with more behind it, trimmed. -/
theorem trimBy_infix_append (drop : Char → Bool) (s more : List Char) :
    trimBy drop s <:+: trimBy drop (s ++ more) := by
  have kept : ∀ kept, (kept.reverse.dropWhile drop).reverse <:+:
      ((kept ++ more).reverse.dropWhile drop).reverse := by
    intro kept
    rw [List.reverse_infix, List.reverse_append, List.dropWhile_append]
    split
    · exact List.infix_rfl
    · exact (List.dropWhile_suffix drop).isInfix.trans (List.suffix_append _ _).isInfix
  rw [trimBy, trimBy, List.dropWhile_append]
  split
  · next blank =>
    rw [List.isEmpty_iff.mp blank]
    exact List.nil_infix
  · exact kept _

theorem strip_infix_append (s more : String) :
    (strip s).toList <:+: (strip (s ++ more)).toList := by
  simpa [strip] using trimBy_infix_append isBlank s.toList more.toList

end FormulaEditor.Text

namespace FormulaEditor.Suggestion

open FormulaEditor.Text (strip lowerFrom lowerBetween EachSigma SigmasSettled)

variable {query : String} {s : Suggestion}

theorem count_search_of_infix (typed : strip query ≠ "")
    (found : lowerFrom [] (strip query).toList <:+: lowerFrom [] s.name.toList)
    (suggestions : List Suggestion) :
    (search suggestions query).count s = suggestions.count s := by
  rw [search_of_not_blank typed]
  apply List.count_filter
  simpa [Text.lower] using found

theorem infix_of_count_search (typed : strip query ≠ "")
    (kept : (search [s] query).count s = [s].count s) :
    lowerFrom [] (strip query).toList <:+: lowerFrom [] s.name.toList := by
  have member : s ∈ search [s] query := by
    rw [← List.count_pos_iff, kept, List.count_singleton_self]
    decide
  rw [search_of_not_blank typed, List.mem_filter] at member
  simpa [Text.lower] using member.2

/-- A name is found where it contains the query, if the capital sigmas of the query end words there
just as they do in the query. -/
theorem infix_of_eachSigma {front back : List Char}
    (contains : s.name.toList = front ++ (strip query).toList ++ back)
    (alike : EachSigma (· = ·) (strip query).toList front.reverse back [] []) :
    lowerFrom [] (strip query).toList <:+: lowerFrom [] s.name.toList := by
  rw [contains, List.append_assoc, Text.lowerFrom_append, Text.lowerFrom_append, List.append_nil,
    Text.lowerBetween_of_eachSigma alike, ← Text.lowerFrom_eq_lowerBetween, ← List.append_assoc]
  exact List.infix_append _ _ _

/-- A suggestion whose name contains the query as it is typed is kept as often as it is there, if
the capital sigmas of the query end words at that place just as they do in the query. Just the
queries with settled sigmas keep all suggestions whose names contain them; such a query drops none
that is found by a longer one which the name contains as well. -/
theorem search_keeps_containing (typed : strip query ≠ "") :
    (∀ (suggestions : List Suggestion) (s : Suggestion) (front back : List Char),
      s.name.toList = front ++ (strip query).toList ++ back →
      EachSigma (· = ·) (strip query).toList front.reverse back [] [] →
      (search suggestions query).count s = suggestions.count s) ∧
    ((∀ (suggestions : List Suggestion) (s : Suggestion),
      (strip query).toList <:+: s.name.toList →
      (search suggestions query).count s = suggestions.count s) ↔
        SigmasSettled (strip query).toList) ∧
    (SigmasSettled (strip query).toList →
      ∀ (suggestions : List Suggestion) (s : Suggestion) (more : String),
        (strip (query ++ more)).toList <:+: s.name.toList →
        s ∈ search suggestions (query ++ more) → s ∈ search suggestions query) := by
  have keeps : ∀ (suggestions : List Suggestion) (s : Suggestion) (front back : List Char),
      s.name.toList = front ++ (strip query).toList ++ back →
      EachSigma (· = ·) (strip query).toList front.reverse back [] [] →
      (search suggestions query).count s = suggestions.count s :=
    fun suggestions s front back contains alike =>
      count_search_of_infix typed (infix_of_eachSigma contains alike) suggestions
  have settles : SigmasSettled (strip query).toList → ∀ (suggestions : List Suggestion)
      (s : Suggestion), (strip query).toList <:+: s.name.toList →
      (search suggestions query).count s = suggestions.count s := by
    rintro settled suggestions s ⟨front, back, contains⟩
    exact keeps suggestions s front back contains.symm (settled.eachSigma _ _)
  refine ⟨keeps, ⟨fun keepsAll => ?_, settles⟩, fun settled suggestions s more contains found => ?_⟩
  -- The names that tell are the query with a letter in front of it and behind it.
  · have kept := fun name contains => infix_of_count_search typed
      (keepsAll [⟨"1", String.ofList name⟩] ⟨"1", String.ofList name⟩ contains)
    simp only [String.toList_ofList] at kept
    exact Text.sigmasSettled_of_infix (kept _ (List.suffix_cons _ _).isInfix)
      (kept _ (List.prefix_append _ _).isInfix)
  · have member : s ∈ suggestions := search_subset suggestions _ found
    have contains := (Text.strip_infix_append query more).trans contains
    rw [← List.count_pos_iff, settles settled suggestions s contains]
    exact List.count_pos_iff.mpr member

theorem search_keeps_wanderers :
    (search [⟨"1", "ΚΟΣΑΣ"⟩, ⟨"2", "κοσ"⟩, ⟨"1", "ΚΟΣΑΣ"⟩] " ΟΣΑ ").count ⟨"1", "ΚΟΣΑΣ"⟩ = 2 := by
  have typed : strip " ΟΣΑ " ≠ "" := by decide +kernel
  have stripped : (strip " ΟΣΑ ").toList = ['Ο', 'Σ', 'Α'] := by decide +kernel
  have settled : SigmasSettled (strip " ΟΣΑ ").toList := by
    rw [stripped]
    intro a b split
    -- Behind the only sigma a cased letter comes next.
    have behind : b = ['Α'] := by
      rcases a with _ | ⟨_, _ | ⟨_, _ | ⟨_, a⟩⟩⟩ <;> simp at split
      exact split.2.symm
    rw [behind]
    exact .inl (by decide +kernel)
  have contains : (strip " ΟΣΑ ").toList <:+: "ΚΟΣΑΣ".toList := by
    rw [stripped]
    exact ⟨['Κ'], ['Σ'], rfl⟩
  rw [(search_keeps_containing typed).2.1.mpr settled _ _ contains]
  decide

/-- The sigma at the end of the query is lowered to the final form, but that in the name is not. -/
theorem search_misses_containing :
    (strip "ΟΔΟΣ").toList <:+: "ΟΔΟΣΑ".toList ∧
      search [⟨"1", "ΟΔΟΣΑ"⟩] "ΟΔΟΣ" = [] ∧
      search [⟨"1", "ΟΔΟΣΑ"⟩] ("ΟΔΟΣ" ++ "Α") = [⟨"1", "ΟΔΟΣΑ"⟩] := by
  decide +kernel

end FormulaEditor.Suggestion
