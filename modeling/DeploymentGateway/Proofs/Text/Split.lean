import DeploymentGateway.Text.Split
/-!
What the pieces of a text are: the stretches without a separator that lie between two separators, or
between a separator and an end of the text. And what a text is cut into at its first or at its last
separator.
-/

set_option autoImplicit false

namespace DeploymentGateway.Text

variable {separates : Char → Bool} {piece s : List Char}

theorem pieces_ne_nil (separates : Char → Bool) (s : List Char) : pieces separates s ≠ [] := by
  induction s with
  | nil => simp [pieces]
  | cons c rest ih =>
    rw [pieces]
    split
    · simp
    · split <;> simp

/-- A text without a separator is one piece. -/
theorem pieces_of_forall (plain : ∀ c ∈ s, separates c = false) : pieces separates s = [s] := by
  induction s with
  | nil => rfl
  | cons c rest ih =>
    obtain ⟨hc, hrest⟩ := List.forall_mem_cons.mp plain
    simp [pieces, hc, ih hrest]

/-- A separator divides the pieces into those before it and those after it. -/
theorem pieces_append_cons {c : Char} (separator : separates c = true) (before after : List Char) :
    pieces separates (before ++ c :: after) =
      pieces separates before ++ pieces separates after := by
  induction before with
  | nil => simp [pieces, separator]
  | cons d before ih =>
    rw [List.cons_append, pieces, pieces, ih]
    split
    · rfl
    · rcases found : pieces separates before with _ | ⟨first, more⟩
      · exact absurd found (pieces_ne_nil separates before)
      · rfl

/-- A stretch of a text stands between two separators, or between a separator and an end. -/
def Stands (separates : Char → Bool) (piece s : List Char) : Prop :=
  ∃ before after, s = before ++ piece ++ after ∧ (∀ c ∈ before.getLast?, separates c = true) ∧
    ∀ c ∈ after.head?, separates c = true

/-- A text has no separator, or it has a first one. -/
private theorem plain_or_first (separates : Char → Bool) (s : List Char) :
    (∀ c ∈ s, separates c = false) ∨ ∃ first c rest, s = first ++ c :: rest ∧
      (∀ d ∈ first, separates d = false) ∧ separates c = true := by
  induction s with
  | nil => exact .inl (List.forall_mem_nil _)
  | cons d s ih =>
    rcases separator : separates d with _ | _
    · rcases ih with plain | ⟨first, c, rest, rfl, before, mark⟩
      · exact .inl (List.forall_mem_cons.mpr ⟨separator, plain⟩)
      · exact .inr ⟨d :: first, c, rest, rfl, List.forall_mem_cons.mpr ⟨separator, before⟩, mark⟩
    · exact .inr ⟨[], d, s, rfl, List.forall_mem_nil _, separator⟩

private theorem stands_of_mem_pieces (n : Nat) (s : List Char) (short : s.length ≤ n)
    (mem : piece ∈ pieces separates s) :
    (∀ c ∈ piece, separates c = false) ∧ Stands separates piece s := by
  induction n generalizing s with
  | zero =>
    obtain rfl : s = [] := List.eq_nil_of_length_eq_zero (Nat.le_zero.mp short)
    obtain rfl : piece = [] := by simpa [pieces] using mem
    exact ⟨List.forall_mem_nil _, [], [], rfl, by simp, by simp⟩
  | succ n ih =>
    rcases plain_or_first separates s with plain | ⟨first, c, rest, rfl, plain, mark⟩
    · obtain rfl : piece = s := by simpa [pieces_of_forall plain] using mem
      exact ⟨plain, [], [], by simp, by simp, by simp⟩
    · rw [pieces_append_cons mark, pieces_of_forall plain, List.singleton_append,
        List.mem_cons] at mem
      rcases mem with rfl | mem
      · exact ⟨plain, [], c :: rest, by simp, by simp, by simpa using mark⟩
      · have shorter : rest.length ≤ n := by
          simp only [List.length_append, List.length_cons] at short
          omega
        obtain ⟨inner, before, after, rfl, left, right⟩ := ih rest shorter mem
        refine ⟨inner, first ++ c :: before, after, by simp, ?_, right⟩
        rcases before.eq_nil_or_concat with rfl | ⟨before, d, rfl⟩
        · simpa using mark
        · rw [List.concat_eq_append, List.getLast?_concat] at left
          rw [List.concat_eq_append, ← List.cons_append, ← List.append_assoc, List.getLast?_concat]
          exact left

/-- The pieces of a text are its stretches without a separator that stand between separators. -/
theorem mem_pieces_iff : piece ∈ pieces separates s ↔
    (∀ c ∈ piece, separates c = false) ∧ Stands separates piece s := by
  refine ⟨stands_of_mem_pieces s.length s (Nat.le_refl _), ?_⟩
  rintro ⟨plain, before, after, rfl, left, right⟩
  have own : piece ∈ pieces separates piece := by simp [pieces_of_forall plain]
  have open_right : piece ∈ pieces separates (piece ++ after) := by
    rcases after with _ | ⟨c, after⟩
    · simpa using own
    · rw [pieces_append_cons (by simpa using right)]
      exact List.mem_append_left _ own
  rcases before.eq_nil_or_concat with rfl | ⟨before, c, rfl⟩
  · simpa using open_right
  · rw [List.concat_eq_append, List.append_assoc, List.append_assoc, List.singleton_append,
      pieces_append_cons (by simpa using left)]
    exact List.mem_append_right _ open_right

theorem eq_append_of_splitFirst? {separator : Char} {s before after : List Char}
    (split : splitFirst? separator s = some (before, after)) : s = before ++ separator :: after := by
  induction s generalizing before with
  | nil => cases split
  | cons c rest ih =>
    rw [splitFirst?] at split
    split at split
    · rename_i same
      cases split
      rw [same, List.nil_append]
    · obtain ⟨⟨before', after'⟩, inner, same⟩ := Option.map_eq_some_iff.mp split
      cases same
      rw [ih inner, List.cons_append]

/-- Before the first separator there is none. -/
theorem forall_ne_of_splitFirst? {separator : Char} {s before after : List Char}
    (split : splitFirst? separator s = some (before, after)) : ∀ c ∈ before, c ≠ separator := by
  induction s generalizing before with
  | nil => cases split
  | cons c rest ih =>
    rw [splitFirst?] at split
    split at split
    · cases split
      exact List.forall_mem_nil _
    · rename_i other
      obtain ⟨⟨before', after'⟩, inner, same⟩ := Option.map_eq_some_iff.mp split
      cases same
      exact List.forall_mem_cons.mpr ⟨other, ih inner⟩

theorem splitFirst?_append {separator : Char} {before : List Char} (plain : ∀ c ∈ before, c ≠ separator)
    (after : List Char) :
    splitFirst? separator (before ++ separator :: after) = some (before, after) := by
  induction before with
  | nil => simp [splitFirst?]
  | cons c rest ih =>
    obtain ⟨other, plain⟩ := List.forall_mem_cons.mp plain
    simp [splitFirst?, other, ih plain]

theorem splitFirst?_eq_none_iff {separator : Char} {s : List Char} :
    splitFirst? separator s = none ↔ separator ∉ s := by
  induction s with
  | nil => simp [splitFirst?]
  | cons c rest ih =>
    by_cases here : c = separator
    · simp [splitFirst?, here]
    · simp [splitFirst?, here, ih, Ne.symm here]

theorem cutFirst?_eq_none_iff {separator : Char} {s : String} :
    cutFirst? separator s = none ↔ separator ∉ s.toList := by
  rw [cutFirst?, Option.map_eq_none_iff, splitFirst?_eq_none_iff]

theorem eq_append_of_cutFirst? {separator : Char} {s before after : String}
    (cut : cutFirst? separator s = some (before, after)) :
    s = before ++ String.singleton separator ++ after := by
  obtain ⟨⟨before', after'⟩, split, same⟩ := Option.map_eq_some_iff.mp cut
  cases same
  apply String.toList_injective
  simp [eq_append_of_splitFirst? split]

theorem forall_ne_of_cutFirst? {separator : Char} {s before after : String}
    (cut : cutFirst? separator s = some (before, after)) : ∀ c ∈ before.toList, c ≠ separator := by
  obtain ⟨⟨before', after'⟩, split, same⟩ := Option.map_eq_some_iff.mp cut
  cases same
  simpa using forall_ne_of_splitFirst? split

/-- A text is cut where the separator stands, if there is none before it. -/
theorem cutFirst?_append {separator : Char} {before : String}
    (plain : ∀ c ∈ before.toList, c ≠ separator) (after : String) :
    cutFirst? separator (before ++ String.singleton separator ++ after) = some (before, after) := by
  have whole : (before ++ String.singleton separator ++ after).toList =
      before.toList ++ separator :: after.toList := by simp
  rw [cutFirst?, whole, splitFirst?_append plain]
  simp

/-- A piece of a text has no separator. -/
theorem forall_ne_of_mem_piecesAt {separator : Char} {s part : String}
    (mem : part ∈ piecesAt separator s) : ∀ c ∈ part.toList, c ≠ separator := by
  obtain ⟨chars, piece, rfl⟩ := List.mem_map.mp mem
  simpa using (mem_pieces_iff.mp piece).1

/-- Texts without the separator are the pieces of what they are joined to. -/
theorem piecesAt_joinWith {separator : Char} {texts : List String} (given : texts ≠ [])
    (plain : ∀ s ∈ texts, separator ∉ s.toList) :
    piecesAt separator (joinWith (String.singleton separator) texts) = texts := by
  have alone (s : String) (single : separator ∉ s.toList) :
      pieces (· == separator) s.toList = [s.toList] := by
    refine pieces_of_forall fun c mem => ?_
    rw [beq_eq_false_iff_ne]
    rintro rfl
    exact single mem
  induction texts with
  | nil => exact absurd rfl given
  | cons s rest ih =>
    obtain ⟨first, plain⟩ := List.forall_mem_cons.mp plain
    cases rest with
    | nil => rw [joinWith, piecesAt, alone s first, List.map_singleton, String.ofList_toList]
    | cons t rest =>
      have whole : (joinWith (String.singleton separator) (s :: t :: rest)).toList =
          s.toList ++ separator :: (joinWith (String.singleton separator) (t :: rest)).toList := by
        simp [joinWith]
      have others := ih (List.cons_ne_nil t rest) plain
      rw [piecesAt, whole, pieces_append_cons (by simp), alone s first,
        List.singleton_append, List.map_cons, String.ofList_toList]
      rw [piecesAt] at others
      rw [others]

/-- With something behind it, a text is another one. -/
theorem append_ne_self {t : String} (some : t ≠ "") (s : String) : s ++ t ≠ s := by
  intro same
  have nothing : t.toList = [] := by simpa using congrArg String.toList same
  exact some (String.toList_eq_nil_iff.mp nothing)

/-! The last separator. -/

/-- Where two texts are joined, the last separator is in the second, or else in the first. -/
theorem splitLast?_append (separator : Char) (s t : List Char) :
    splitLast? separator (s ++ t) =
      match splitLast? separator t with
      | some (before, after) => some (s ++ before, after)
      | none => (splitLast? separator s).map fun (before, after) => (before, after ++ t) := by
  induction s with
  | nil => rcases found : splitLast? separator t with _ | ⟨before, after⟩ <;> simp [found, splitLast?]
  | cons c rest ih =>
    rw [List.cons_append, splitLast?, ih, splitLast?]
    rcases splitLast? separator t with _ | ⟨before, after⟩
    · rcases splitLast? separator rest with _ | ⟨before, after⟩
      · by_cases here : c = separator <;> simp [here]
      · rfl
    · rfl

theorem splitLast?_eq_none_iff {separator : Char} {s : List Char} :
    splitLast? separator s = none ↔ separator ∉ s := by
  induction s with
  | nil => simp [splitLast?]
  | cons c rest ih =>
    rw [splitLast?]
    rcases found : splitLast? separator rest with _ | ⟨before, after⟩
    · have plain : separator ∉ rest := ih.mp found
      simp [plain, eq_comm]
    · have there : separator ∈ rest := by simpa [found] using ih
      simp [there]

theorem eq_append_of_splitLast? {separator : Char} {s before after : List Char}
    (split : splitLast? separator s = some (before, after)) : s = before ++ separator :: after := by
  induction s generalizing before with
  | nil => cases split
  | cons c rest ih =>
    rw [splitLast?] at split
    split at split
    · rename_i inner
      cases split
      rw [ih inner, List.cons_append]
    · split at split
      · rename_i same
        cases split
        rw [same, List.nil_append]
      · cases split

/-- After the last separator there is none. -/
theorem not_mem_of_splitLast? {separator : Char} {s before after : List Char}
    (split : splitLast? separator s = some (before, after)) : separator ∉ after := by
  induction s generalizing before with
  | nil => cases split
  | cons c rest ih =>
    rw [splitLast?] at split
    split at split
    · rename_i inner
      cases split
      exact ih inner
    · rename_i plain
      split at split
      · cases split
        exact splitLast?_eq_none_iff.mp plain
      · cases split

theorem cutLast?_eq_none_iff {separator : Char} {s : String} :
    cutLast? separator s = none ↔ separator ∉ s.toList := by
  rw [cutLast?, Option.map_eq_none_iff, splitLast?_eq_none_iff]

theorem afterLast_of_not_mem {separator : Char} {s : String} (plain : separator ∉ s.toList) :
    afterLast separator s = s := by
  rw [afterLast, cutLast?_eq_none_iff.mpr plain]

/-- A text with a separator has the same after its last one, whatever is put before the text. -/
theorem afterLast_append_of_mem {separator : Char} {t : String} (there : separator ∈ t.toList)
    (s : String) : afterLast separator (s ++ t) = afterLast separator t := by
  rcases found : splitLast? separator t.toList with _ | ⟨before, after⟩
  · exact absurd there (splitLast?_eq_none_iff.mp found)
  · simp [afterLast, cutLast?, splitLast?_append, found]

/-- A text without the separator extends what follows the last one. -/
theorem afterLast_append_of_not_mem {separator : Char} {t : String} (plain : separator ∉ t.toList)
    (s : String) : afterLast separator (s ++ t) = afterLast separator s ++ t := by
  have none := splitLast?_eq_none_iff.mpr plain
  rcases found : splitLast? separator s.toList with _ | ⟨before, after⟩ <;>
    simp [afterLast, cutLast?, splitLast?_append, none, found]

/-- What follows the last separator does not depend on what is before another one. -/
theorem afterLast_append_mark (separator : Char) (s t : String) :
    afterLast separator (s ++ String.singleton separator ++ t) = afterLast separator t := by
  by_cases there : separator ∈ t.toList
  · exact afterLast_append_of_mem there _
  · have none := splitLast?_eq_none_iff.mpr there
    rw [afterLast_of_not_mem there]
    simp [afterLast, cutLast?, splitLast?_append, none, splitLast?]

/-- What follows the last separator is the end of the text. -/
theorem afterLast_isSuffix (separator : Char) (s : String) :
    (afterLast separator s).toList <:+ s.toList := by
  rcases found : splitLast? separator s.toList with _ | ⟨before, after⟩
  · have whole : afterLast separator s = s := afterLast_of_not_mem (splitLast?_eq_none_iff.mp found)
    exact ⟨[], by rw [whole, List.nil_append]⟩
  · have last : (afterLast separator s).toList = after := by simp [afterLast, cutLast?, found]
    rw [last, eq_append_of_splitLast? found]
    exact ⟨before ++ [separator], by simp⟩

/-- The last of some texts is what follows the last mark between them. -/
theorem afterLast_joinWith {separator : Char} {last : String} (plain : separator ∉ last.toList)
    (others : List String) :
    afterLast separator (joinWith (String.singleton separator) (others ++ [last])) = last := by
  induction others with
  | nil => exact afterLast_of_not_mem plain
  | cons s rest ih =>
    obtain ⟨t, more, whole⟩ := List.exists_cons_of_ne_nil
      (List.append_ne_nil_of_right_ne_nil rest (List.cons_ne_nil last []))
    rw [List.cons_append, whole, joinWith, ← whole]
    · rw [afterLast_append_mark, ih]
    · exact List.cons_ne_nil t more

/-- A part of a text stands behind the last separator there. -/
def FollowsLast (separator : Char) (part whole : String) : Prop :=
  separator ∉ part.toList ∧ ∃ before, whole = before ++ String.singleton separator ++ part

theorem FollowsLast.mem {separator : Char} {part whole : String} (follows : FollowsLast separator part whole) :
    separator ∈ whole.toList := by
  obtain ⟨_, before, rfl⟩ := follows
  simp

theorem FollowsLast.afterLast_eq {separator : Char} {part whole : String}
    (follows : FollowsLast separator part whole) : afterLast separator whole = part := by
  obtain ⟨plain, before, rfl⟩ := follows
  rw [afterLast_append_mark, afterLast_of_not_mem plain]

/-- Wherever there is a separator, something follows the last one. -/
theorem followsLast_afterLast {separator : Char} {s : String} (there : separator ∈ s.toList) :
    FollowsLast separator (afterLast separator s) s := by
  rcases split : splitLast? separator s.toList with _ | ⟨before, after⟩
  · exact absurd there (splitLast?_eq_none_iff.mp split)
  · have last : afterLast separator s = String.ofList after := by simp [afterLast, cutLast?, split]
    rw [last]
    refine ⟨?_, String.ofList before, ?_⟩
    · rw [String.toList_ofList]
      exact not_mem_of_splitLast? split
    · apply String.toList_injective
      rw [eq_append_of_splitLast? split]
      simp

theorem afterLast_eq_iff_of_mem {separator : Char} {s part : String} (there : separator ∈ s.toList) :
    afterLast separator s = part ↔ FollowsLast separator part s := by
  constructor
  · rintro rfl
    exact followsLast_afterLast there
  · exact FollowsLast.afterLast_eq

end DeploymentGateway.Text
