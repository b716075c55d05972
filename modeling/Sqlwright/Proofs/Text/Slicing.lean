/-!
# Text cut at byte offsets

Text that is kept in UTF-8 is cut at offsets counted in bytes. Not every offset is one: behind the
end there is nothing to cut, and a character of several bytes must not be torn apart. A text can be
cut behind every part that it starts with, and so at the offset where a search finds a character.
-/

namespace Sqlwright.Text

/-- The number of bytes that a text takes. -/
def bytes : List Char → Nat
  | [] => 0
  | c :: rest => c.utf8Size + bytes rest

/-- A text cut at an offset: what stands before it, and what stands behind. There is no cut past
the end of the text, and none within a character. -/
def cut? (offset : Nat) : List Char → Option (List Char × List Char)
  | [] => if offset = 0 then some ([], []) else none
  | c :: rest =>
    if offset = 0 then some ([], c :: rest)
    else if c.utf8Size ≤ offset then
      (cut? (offset - c.utf8Size) rest).map fun (before, behind) => (c :: before, behind)
    else none

/-- The offset of the first character that is picked. -/
def offset? (picked : Char → Bool) : List Char → Option Nat
  | [] => none
  | c :: rest => if picked c then some 0 else (offset? picked rest).map (c.utf8Size + ·)

@[simp] theorem bytes_nil : bytes [] = 0 := rfl

@[simp] theorem bytes_cons (c : Char) (text : List Char) :
    bytes (c :: text) = c.utf8Size + bytes text := rfl

@[simp] theorem bytes_append (left right : List Char) :
    bytes (left ++ right) = bytes left + bytes right := by
  induction left with
  | nil => exact (Nat.zero_add (bytes right)).symm
  | cons c left inductionHypothesis =>
    rw [List.cons_append, bytes_cons, bytes_cons, inductionHypothesis, Nat.add_assoc]

/-- At the start every text can be cut. -/
@[simp] theorem cut?_zero (text : List Char) : cut? 0 text = some ([], text) := by
  cases text <;> simp [cut?]

/-- A text can be cut behind any part that it starts with. -/
theorem cut?_append (before behind : List Char) :
    cut? (bytes before) (before ++ behind) = some (before, behind) := by
  induction before with
  | nil => exact cut?_zero behind
  | cons c before inductionHypothesis =>
    have wide := c.utf8Size_pos
    have moved : c.utf8Size + bytes before ≠ 0 := by omega
    rw [bytes_cons, List.cons_append, cut?, if_neg moved, if_pos (Nat.le_add_right _ _),
      Nat.add_sub_cancel_left, inductionHypothesis]
    rfl

/-- A text has no character that is picked, or a first one. -/
theorem picked_or_not (picked : Char → Bool) (text : List Char) :
    (∀ c ∈ text, picked c = false) ∨
      ∃ before c rest, text = before ++ c :: rest ∧ (∀ d ∈ before, picked d = false) ∧
        picked c = true := by
  induction text with
  | nil => exact .inl nofun
  | cons c rest inductionHypothesis =>
    by_cases here : picked c = true
    · exact .inr ⟨[], c, rest, rfl, nofun, here⟩
    · have unpicked : picked c = false := Bool.eq_false_iff.mpr here
      rcases inductionHypothesis with none | ⟨before, d, behind, rfl, others, found⟩
      · exact .inl (List.forall_mem_cons.mpr ⟨unpicked, none⟩)
      · exact .inr ⟨c :: before, d, behind, rfl, List.forall_mem_cons.mpr ⟨unpicked, others⟩,
          found⟩

/-- Nothing is found where no character is picked. -/
theorem offset?_eq_none {picked : Char → Bool} {text : List Char}
    (unpicked : ∀ c ∈ text, picked c = false) : offset? picked text = none := by
  induction text with
  | nil => rfl
  | cons c rest inductionHypothesis =>
    have head : picked c = false := unpicked c List.mem_cons_self
    have tail := inductionHypothesis fun d member => unpicked d (List.mem_cons_of_mem c member)
    simp [offset?, head, tail]

/-- The character found is the one behind those that are not picked. -/
theorem offset?_append {picked : Char → Bool} {before rest : List Char} {c : Char}
    (unpicked : ∀ d ∈ before, picked d = false) (found : picked c = true) :
    offset? picked (before ++ c :: rest) = some (bytes before) := by
  induction before with
  | nil => simp [offset?, found]
  | cons d before inductionHypothesis =>
    have head : picked d = false := unpicked d List.mem_cons_self
    have tail := inductionHypothesis fun e member => unpicked e (List.mem_cons_of_mem d member)
    simp [offset?, head, tail]

end Sqlwright.Text
