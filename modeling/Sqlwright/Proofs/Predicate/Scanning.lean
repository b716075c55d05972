import Sqlwright.Predicate.Template
import Sqlwright.Proofs.Text.Identifier
import Sqlwright.Proofs.Text.Slicing
import Sqlwright.Text.Doubling

/-!
# Templates written and scanned

A template is written from segments by doubling the braces of the texts and by putting the number
of each argument in braces. Scanning it gives the segments back, with neighbouring texts joined and
empty ones left out. Nothing that stands beside a call or beside a doubled brace can change how
these are read: the scanner goes from left to right, and a numeral never starts with a brace.

The scanner is also given in the form that cuts the template at byte offsets. One round looks for
the next brace, and takes it with the text before it: doubled, as a call, or alone. Every cut of a
round can be made, whatever the template, and the rounds read what the scanner reads.
-/

namespace Sqlwright

namespace Template

/-- An opening or a closing brace. -/
def isBrace (c : Char) : Bool := c == '\x7b' || c == '\x7d'

/-- A segment as it stands in a template. -/
def spelled : Segment → List Char
  | .text text => Text.doubled isBrace text.toList
  | .argument index => '\x7b' :: (Text.digits 10 index ++ ['\x7d'])

/-- The template that is written from segments. -/
def ofSegments (segments : List Segment) : String := String.ofList (segments.flatMap spelled)

/-- Neighbouring texts joined into one, and empty texts left out. -/
def joined : List Segment → List Segment
  | [] => []
  | .argument index :: rest => .argument index :: joined rest
  | .text text :: rest =>
    match joined rest with
    | .text next :: others => .text (text ++ next) :: others
    | others => if text = "" then others else .text text :: others

section

variable {c : Char} {rest after : List Char} {index : Nat}

/-- A character that is no brace stands for itself. -/
theorem items_plain (plain : isBrace c = false) (rest : List Char) :
    items (c :: rest) = .char c :: items rest := by
  have notOpening : c ≠ '\x7b' := by
    rintro rfl
    cases plain
  have notClosing : c ≠ '\x7d' := by
    rintro rfl
    cases plain
  rw [items.eq_4 _ _ (fun _ same _ => notOpening same) (fun _ same _ => notClosing same),
    if_neg notOpening]

/-- A doubled brace stands for one. -/
theorem items_doubled (brace : isBrace c = true) (rest : List Char) :
    items (c :: c :: rest) = .char c :: items rest := by
  rcases Bool.or_eq_true_iff.mp brace with opening | closing
  · rw [eq_of_beq opening, items]
  · rw [eq_of_beq closing, items]

/-- A closing brace alone stands for itself. -/
theorem items_closing (single : rest.head? ≠ some '\x7d') :
    items ('\x7d' :: rest) = .char '\x7d' :: items rest := by
  have notDoubled : ∀ others, '\x7d' = '\x7d' → rest = '\x7d' :: others → False :=
    fun others _ same => single (same ▸ rfl)
  have notOpening : ('\x7d' : Char) ≠ '\x7b' := by decide
  rw [items.eq_4 _ _ (fun _ same _ => notOpening same) notDoubled, if_neg notOpening]

/-- An opening brace alone begins a call, or stands for itself. -/
theorem items_opening (single : rest.head? ≠ some '\x7b') :
    items ('\x7b' :: rest) =
      match call? rest with
      | some (index, after) => .argument index :: items after
      | none => .char '\x7b' :: items rest := by
  have notDoubled : ∀ others, '\x7b' = '\x7b' → rest = '\x7b' :: others → False :=
    fun others _ same => single (same ▸ rfl)
  have notClosing : ('\x7b' : Char) ≠ '\x7d' := by decide
  rw [items.eq_4 _ _ notDoubled (fun _ same _ => notClosing same), if_pos rfl]
  split <;> rename_i called <;> rw [called]

/-- A text is read as it was before its braces were doubled. -/
theorem items_text (text rest : List Char) :
    items (Text.doubled isBrace text ++ rest) = text.map .char ++ items rest := by
  induction text with
  | nil => rfl
  | cons c text inductionHypothesis =>
    by_cases brace : isBrace c = true
    · simp only [Text.doubled, brace, ↓reduceIte, List.cons_append, items_doubled brace,
        inductionHypothesis, List.map_cons]
    · have plain : isBrace c = false := Bool.eq_false_iff.mpr brace
      simp only [Text.doubled, brace, List.cons_append, items_plain plain, inductionHypothesis,
        List.map_cons, Bool.false_eq_true, ↓reduceIte]

/-- Digits are read as the number that they stand for. -/
theorem numeral?_of_digits {digits : List Char} (value : Nat)
    (each : ∀ c ∈ digits, c.isDigit = true) :
    numeral? value digits = some (Nat.ofDigitChars 10 digits value) := by
  induction digits generalizing value with
  | nil => rfl
  | cons c digits inductionHypothesis =>
    have head := each c List.mem_cons_self
    rw [numeral?, if_pos head,
      inductionHypothesis _ fun d member => each d (List.mem_cons_of_mem c member)]
    rfl

/-- The digits of a number are a numeral without a sign. -/
theorem index?_of_unsigned {c : Char} {others : List Char} (unsigned : c ≠ '+') :
    index? (c :: others) = (numeral? 0 (c :: others)).filter (· < indexBound) := by
  unfold index?
  split
  · rename_i signed
    exact absurd (List.cons.inj signed).1 unsigned
  · rfl

/-- The digits of a number. -/
theorem isDigit_of_mem_digits {n : Nat} {c : Char} (member : c ∈ Text.digits 10 n) :
    c.isDigit = true :=
  Nat.isDigit_of_mem_toDigits (by decide) (Nat.le_refl 10) member

/-- No numeral starts with a character that is not a digit. -/
theorem head?_digits (n : Nat) (rest : List Char) {c : Char} (other : c.isDigit = false) :
    (Text.digits 10 n ++ rest).head? ≠ some c := by
  cases written : Text.digits 10 n with
  | nil => exact absurd written Nat.toDigits_ne_nil
  | cons d others =>
    intro same
    have digit : d.isDigit = true := isDigit_of_mem_digits (written ▸ List.mem_cons_self)
    rw [Option.some.inj same, other] at digit
    cases digit

/-- The number of an argument is read back, unless it is too large for an index. -/
theorem index?_digits (inside : index < indexBound) :
    index? (Text.digits 10 index) = some index := by
  have value : numeral? 0 (Text.digits 10 index) = some index := by
    rw [numeral?_of_digits 0 fun c member => isDigit_of_mem_digits member, Text.digits,
      Nat.ofDigitChars_toDigits (by decide) (Nat.le_refl 10)]
  have unsigned := head?_digits index [] (c := '+') (by decide)
  rw [List.append_nil] at unsigned
  cases written : Text.digits 10 index with
  | nil => exact absurd written Nat.toDigits_ne_nil
  | cons c others =>
    rw [written] at value unsigned
    rw [index?_of_unsigned fun same => unsigned (congrArg some same), value, Option.filter_some,
      if_pos (decide_eq_true inside)]

/-- A call ends at the first closing brace. -/
theorem call?_closed {inside : List Char} (unclosed : ∀ c ∈ inside, c ≠ '\x7d')
    (rest : List Char) :
    call? (inside ++ '\x7d' :: rest) = (index? inside).map fun index => (index, rest) := by
  have continued : ∀ c ∈ inside, decide (c ≠ '\x7d') = true := fun c member =>
    decide_eq_true (unclosed c member)
  have ended : ∀ c ∈ ('\x7d' :: rest).head?, decide (c ≠ '\x7d') = false := by
    intro c same
    cases same
    rfl
  unfold call?
  rw [Text.dropWhile_run continued ended, Text.takeWhile_run continued ended]

/-- Without one there is no call. -/
theorem call?_unclosed {text : List Char} (unclosed : ∀ c ∈ text, c ≠ '\x7d') :
    call? text = none := by
  have continued : ∀ c ∈ text, decide (c ≠ '\x7d') = true := fun c member =>
    decide_eq_true (unclosed c member)
  have dropped : (text ++ []).dropWhile (· ≠ '\x7d') = [] := Text.dropWhile_run continued nofun
  rw [List.append_nil] at dropped
  rw [call?, dropped]

/-- A call is read back, whatever follows it. -/
theorem items_argument (inside : index < indexBound) (rest : List Char) :
    items (spelled (.argument index) ++ rest) = .argument index :: items rest := by
  have unclosed : ∀ c ∈ Text.digits 10 index, c ≠ '\x7d' := by
    rintro c member rfl
    exact absurd (isDigit_of_mem_digits member) (by decide)
  have called : call? (Text.digits 10 index ++ '\x7d' :: rest) = some (index, rest) := by
    rw [call?_closed unclosed, index?_digits inside, Option.map_some]
  have written : spelled (.argument index) ++ rest =
      '\x7b' :: (Text.digits 10 index ++ '\x7d' :: rest) := by simp [spelled]
  rw [written, items_opening (head?_digits index _ (by decide)), called]

end

/-- A segment character by character. -/
def Item.ofSegment : Segment → List Item
  | .text text => text.toList.map .char
  | .argument index => [.argument index]

/-- A template that was written from segments is read as these, one after another. -/
theorem items_ofSegments {segments : List Segment}
    (indices : ∀ index, .argument index ∈ segments → index < indexBound) :
    items (segments.flatMap spelled) = segments.flatMap Item.ofSegment := by
  induction segments with
  | nil => simp [items]
  | cons segment rest inductionHypothesis =>
    have following := inductionHypothesis fun index among =>
      indices index (List.mem_cons_of_mem _ among)
    rw [List.flatMap_cons, List.flatMap_cons]
    cases segment with
    | text text => rw [spelled, items_text, following, Item.ofSegment]
    | argument index =>
      rw [items_argument (indices index List.mem_cons_self), following, Item.ofSegment]
      rfl

/-- An empty text in front leaves nothing. -/
theorem joined_empty (segments : List Segment) :
    joined (.text "" :: segments) = joined segments := by
  rw [joined]
  split
  · rename_i next others found
    rw [found, String.empty_append]
  · rw [if_pos rfl]

/-- Two texts in front count as one. -/
theorem joined_text_text (first second : String) (segments : List Segment) :
    joined (.text first :: .text second :: segments) =
      joined (.text (first ++ second) :: segments) := by
  rw [joined, joined, joined]
  cases joined segments with
  | nil => by_cases empty : second = "" <;> simp [empty]
  | cons segment others =>
    cases segment with
    | text next => simp [String.append_assoc]
    | argument index => by_cases empty : second = "" <;> simp [empty]

/-- Joining changes nothing of what stands there character by character. -/
theorem ofSegment_joined (segments : List Segment) :
    (joined segments).flatMap Item.ofSegment = segments.flatMap Item.ofSegment := by
  induction segments with
  | nil => rfl
  | cons segment rest inductionHypothesis =>
    rw [List.flatMap_cons, ← inductionHypothesis]
    cases segment with
    | argument index => rw [joined, List.flatMap_cons]
    | text text =>
      rw [joined]
      split
      · rename_i next others found
        simp [found, Item.ofSegment]
      · split
        · rename_i empty
          simp [empty, Item.ofSegment]
        · rfl

/-- And it leaves no empty text. -/
theorem text_empty_notMem_joined (segments : List Segment) : .text "" ∉ joined segments := by
  induction segments with
  | nil => exact nofun
  | cons segment rest inductionHypothesis =>
    cases segment with
    | argument index => simpa [joined] using inductionHypothesis
    | text text =>
      rw [joined]
      split
      · rename_i next others found
        simp only [found, List.mem_cons, Segment.text.injEq, not_or] at inductionHypothesis
        obtain ⟨filled, otherwise⟩ := inductionHypothesis
        have longer : text ++ next ≠ "" := fun empty =>
          filled (String.append_eq_empty_iff.mp empty).2.symm
        simpa [otherwise] using longer
      · split
        · exact inductionHypothesis
        · rename_i filled
          simpa [inductionHypothesis] using Ne.symm filled

/-- Nor does it leave two texts next to one another. -/
theorem joined_ne_neighbours (segments before after : List Segment) (left right : String) :
    joined segments ≠ before ++ .text left :: .text right :: after := by
  induction segments generalizing before left with
  | nil => simp [joined]
  | cons segment rest inductionHypothesis =>
    cases segment with
    | argument index =>
      cases before with
      | nil => simp [joined]
      | cons first before => simp [joined, inductionHypothesis]
    | text text =>
      rw [joined]
      split
      · rename_i next others found
        rw [found] at inductionHypothesis
        intro same
        cases before with
        | nil =>
          exact inductionHypothesis [] next (congrArg (.text next :: ·) (List.cons.inj same).2)
        | cons first before =>
          exact inductionHypothesis (.text next :: before) left
            (congrArg (.text next :: ·) (List.cons.inj same).2)
      · rename_i noText
        split
        · exact inductionHypothesis before left
        · cases before with
          | nil =>
            intro same
            exact noText _ _ (List.cons.inj same).2
          | cons first before => simp [inductionHypothesis]

/-- Characters of plain text are collected one by one. -/
theorem collect_text (pending text : List Char) (rest : List Item) :
    collect pending (text.map .char ++ rest) = collect (text.reverse ++ pending) rest := by
  induction text generalizing pending with
  | nil => rfl
  | cons c text inductionHypothesis =>
    rw [List.map_cons, List.cons_append, collect, inductionHypothesis, List.reverse_cons,
      List.append_assoc, List.singleton_append]

/-- Collecting joins the texts. What is pending is a text in front of them. -/
theorem collect_ofSegments (pending : List Char) (segments : List Segment) :
    collect pending (segments.flatMap Item.ofSegment) =
      joined (.text (String.ofList pending.reverse) :: segments) := by
  induction segments generalizing pending with
  | nil => cases pending <;> simp [collect, joined]
  | cons segment rest inductionHypothesis =>
    rw [List.flatMap_cons]
    cases segment with
    | text text =>
      rw [Item.ofSegment, collect_text, inductionHypothesis, joined_text_text, List.reverse_append,
        List.reverse_reverse, String.ofList_append, String.ofList_toList]
    | argument index =>
      have following : collect [] (rest.flatMap Item.ofSegment) = joined rest :=
        (inductionHypothesis []).trans (joined_empty rest)
      rw [Item.ofSegment, List.singleton_append, collect, following]
      cases pending <;> simp [joined]

/-- Scanning a template that was written from segments gives these segments, with neighbouring
texts joined. -/
theorem segments_ofSegments {segments : List Segment}
    (indices : ∀ index, .argument index ∈ segments → index < indexBound) :
    Template.segments (ofSegments segments) = joined segments := by
  rw [Template.segments, ofSegments, String.toList_ofList, items_ofSegments indices,
    collect_ofSegments]
  exact joined_empty segments

/-- Whether a text starts with a doubled brace. -/
def startsDoubled : List Char → Bool
  | c :: d :: _ => isBrace c && c == d
  | _ => false

/-- The call that a text starts with, and what follows it, found by offsets. The outer option says
whether all cuts could be made. -/
def callAt? (text : List Char) : Option (Option (Nat × List Char)) :=
  if text.head? = some '\x7b' then
    match Text.offset? (· == '\x7d') text with
    | none => some none
    | some closing => do
      let (call, _) ← Text.cut? closing text
      let (_, inside) ← Text.cut? 1 call
      match index? inside with
      | none => return none
      | some index =>
        let (_, rest) ← Text.cut? (closing + 1) text
        return some (index, rest)
  else some none

/-- One round of a scan by offsets: what is found up to the next brace and with it, and what is
left of the text behind it. Nothing is left where no brace is found. There is no result if a cut
cannot be made. -/
def round? (text : List Char) : Option (List Item × Option (List Char)) :=
  match Text.offset? isBrace text with
  | none => some (text.map .char, none)
  | some place => do
    let (before, tail) ← Text.cut? place text
    if startsDoubled tail then
      let (brace, _) ← Text.cut? 1 tail
      let (_, rest) ← Text.cut? 2 tail
      return ((before ++ brace).map .char, some rest)
    else
      match ← callAt? tail with
      | some (index, rest) => return (before.map .char ++ [.argument index], some rest)
      | none =>
        let (brace, rest) ← Text.cut? 1 tail
        return ((before ++ brace).map .char, some rest)

/-- A brace without its like behind it is not doubled. -/
theorem startsDoubled_of_single {c : Char} {rest : List Char} (single : rest.head? ≠ some c) :
    startsDoubled (c :: rest) = false := by
  cases rest with
  | nil => rfl
  | cons d others =>
    have different : c ≠ d := fun same => single (congrArg some same.symm)
    simp [startsDoubled, different]

/-- A brace takes one byte. -/
theorem bytes_brace {c : Char} (brace : isBrace c = true) : Text.bytes [c] = 1 := by
  rcases Bool.or_eq_true_iff.mp brace with opening | closing
  · rw [eq_of_beq opening]
    decide
  · rw [eq_of_beq closing]
    decide

/-- Behind a brace every text can be cut. -/
theorem cut?_brace {c : Char} (brace : isBrace c = true) (rest : List Char) :
    Text.cut? 1 (c :: rest) = some ([c], rest) := by
  rw [← bytes_brace brace]
  exact Text.cut?_append [c] rest

/-- And behind a doubled one. -/
theorem cut?_doubled {c : Char} (brace : isBrace c = true) (rest : List Char) :
    Text.cut? 2 (c :: c :: rest) = some ([c, c], rest) := by
  have size : Text.bytes [c, c] = 2 := by
    have one := bytes_brace brace
    simp only [Text.bytes_cons, Text.bytes_nil] at one ⊢
    omega
  rw [← size]
  exact Text.cut?_append [c, c] rest

/-- At an opening brace all cuts can be made, and the call found is the one that is read. -/
theorem callAt?_opening (rest : List Char) : callAt? ('\x7b' :: rest) = some (call? rest) := by
  have opening : ('\x7b' :: rest).head? = some '\x7b' := rfl
  have quiet : ∀ inside : List Char, (∀ c ∈ inside, (c == '\x7d') = false) →
      ∀ c ∈ '\x7b' :: inside, (c == '\x7d') = false := fun inside unclosed =>
    List.forall_mem_cons.mpr ⟨by decide, unclosed⟩
  unfold callAt?
  rw [if_pos opening]
  rcases Text.picked_or_not (· == '\x7d') rest with
    unclosed | ⟨inside, c, after, rfl, unclosed, found⟩
  · rw [Text.offset?_eq_none (quiet rest unclosed),
      call?_unclosed fun c member => ne_of_beq_false (unclosed c member)]
  · obtain rfl : c = '\x7d' := eq_of_beq found
    have offset : Text.offset? (· == '\x7d') ('\x7b' :: (inside ++ '\x7d' :: after)) =
        some (Text.bytes ('\x7b' :: inside)) :=
      Text.offset?_append (quiet inside unclosed) rfl
    have before : Text.cut? (Text.bytes ('\x7b' :: inside))
        ('\x7b' :: (inside ++ '\x7d' :: after)) = some ('\x7b' :: inside, '\x7d' :: after) :=
      Text.cut?_append ('\x7b' :: inside) ('\x7d' :: after)
    have behind : Text.cut? (Text.bytes ('\x7b' :: inside) + 1)
        ('\x7b' :: (inside ++ '\x7d' :: after)) =
          some ('\x7b' :: inside ++ ['\x7d'], after) := by
      have size : Text.bytes ('\x7b' :: inside ++ ['\x7d']) =
          Text.bytes ('\x7b' :: inside) + 1 := by
        rw [Text.bytes_append, bytes_brace (by decide)]
      have cut := Text.cut?_append ('\x7b' :: inside ++ ['\x7d']) after
      rw [size] at cut
      simpa using cut
    rw [offset, call?_closed fun c member => ne_of_beq_false (unclosed c member)]
    simp only [before, behind, cut?_brace (show isBrace '\x7b' = true by decide),
      Option.bind_eq_bind, Option.bind_some, Option.pure_def]
    cases index? inside with
    | none => rfl
    | some index => rfl

/-- Text without braces stands for itself. -/
theorem items_plain_append {text : List Char} (plain : ∀ c ∈ text, isBrace c = false)
    (rest : List Char) : items (text ++ rest) = text.map .char ++ items rest := by
  have undoubled := items_text text rest
  rwa [Text.doubled_eq_self isBrace text plain] at undoubled

section

variable {before tail : List Char} {c : Char}

/-- A round without a brace finds the whole text. -/
theorem round?_plain {text : List Char} (plain : ∀ c ∈ text, isBrace c = false) :
    round? text = some (text.map .char, none) := by
  rw [round?, Text.offset?_eq_none plain]

/-- A round takes a doubled brace as one. -/
theorem round?_doubled (plain : ∀ d ∈ before, isBrace d = false) (brace : isBrace c = true)
    (rest : List Char) :
    round? (before ++ c :: c :: rest) = some ((before ++ [c]).map .char, some rest) := by
  rw [round?, Text.offset?_append plain brace]
  simp [startsDoubled, brace, Text.cut?_append, cut?_brace brace, cut?_doubled brace]

/-- A round takes a brace alone if no call stands there. -/
theorem round?_alone (plain : ∀ d ∈ before, isBrace d = false) (brace : isBrace c = true)
    (single : tail.head? ≠ some c) (noCall : callAt? (c :: tail) = some none) :
    round? (before ++ c :: tail) = some ((before ++ [c]).map .char, some tail) := by
  rw [round?, Text.offset?_append plain brace]
  simp [startsDoubled_of_single single, noCall, Text.cut?_append, cut?_brace brace]

/-- A round takes a call. -/
theorem round?_call {index : Nat} {after : List Char} (plain : ∀ d ∈ before, isBrace d = false)
    (single : tail.head? ≠ some '\x7b') (called : call? tail = some (index, after)) :
    round? (before ++ '\x7b' :: tail) =
      some (before.map .char ++ [.argument index], some after) := by
  rw [round?, Text.offset?_append plain (by decide)]
  simp [startsDoubled_of_single single, callAt?_opening, called, Text.cut?_append]

end

/-- In every round all cuts can be made. What is found is what stands there in the template, and
less text is left. -/
theorem round?_reads (text : List Char) :
    round? text = some (items text, none) ∨
      ∃ found rest, round? text = some (found, some rest) ∧ rest.length < text.length ∧
        items text = found ++ items rest := by
  rcases Text.picked_or_not isBrace text with plain | ⟨before, c, tail, rfl, plain, brace⟩
  · left
    have read := items_plain_append plain []
    rw [List.append_nil, items.eq_1, List.append_nil] at read
    rw [round?_plain plain, read]
  · right
    rw [items_plain_append plain]
    by_cases doubled : tail.head? = some c
    · obtain ⟨others, rfl⟩ : ∃ others, tail = c :: others := by
        cases tail with
        | nil => cases doubled
        | cons d others => exact ⟨others, by rw [Option.some.inj doubled]⟩
      refine ⟨_, _, round?_doubled plain brace others, ?_, ?_⟩
      · simp only [List.length_append, List.length_cons]
        omega
      · simp [items_doubled brace]
    · -- The brace alone, where no call stands, is handled alike for both braces.
      have alone : callAt? (c :: tail) = some none →
          items (c :: tail) = .char c :: items tail →
          ∃ found rest, round? (before ++ c :: tail) = some (found, some rest) ∧
            rest.length < (before ++ c :: tail).length ∧
            before.map .char ++ items (c :: tail) = found ++ items rest := by
        intro noCall read
        refine ⟨_, _, round?_alone plain brace doubled noCall, ?_, ?_⟩
        · simp only [List.length_append, List.length_cons]
          omega
        · simp [read]
      rcases Bool.or_eq_true_iff.mp brace with opening | closing
      · obtain rfl := eq_of_beq opening
        cases called : call? tail with
        | none =>
          refine alone ?_ ?_
          · rw [callAt?_opening, called]
          · rw [items_opening doubled, called]
        | some call =>
          obtain ⟨index, after⟩ := call
          have shorter := length_of_call? called
          refine ⟨_, _, round?_call plain doubled called, ?_, ?_⟩
          · simp only [List.length_append, List.length_cons]
            omega
          · simp [items_opening doubled, called]
      · obtain rfl := eq_of_beq closing
        exact alone (if_neg (by simp)) (items_closing doubled)

/-- Behind a round that goes on less text is left. -/
theorem length_of_round? {text rest : List Char} {found : List Item}
    (taken : round? text = some (found, some rest)) : rest.length < text.length := by
  rcases round?_reads text with ended | ⟨_, _, going, shorter, _⟩
  · rw [ended] at taken
    cases taken
  · rw [going] at taken
    cases taken
    exact shorter

/-- A scan by offsets, round after round. -/
def scan? (text : List Char) : Option (List Item) :=
  match _taken : round? text with
  | none => none
  | some (found, none) => some found
  | some (found, some rest) => (scan? rest).map (found ++ ·)
termination_by text.length
decreasing_by exact length_of_round? _taken

/-- A scan by offsets comes to its end without a cut that cannot be made, on every text, and finds
what is read. -/
theorem scan?_eq (text : List Char) : scan? text = some (items text) := by
  fun_induction scan? text with
  | case1 text stuck =>
    rcases round?_reads text with ended | ⟨_, _, going, _, _⟩
    · rw [ended] at stuck
      cases stuck
    · rw [going] at stuck
      cases stuck
  | case2 text found taken =>
    rcases round?_reads text with ended | ⟨_, _, going, _, _⟩
    · rw [ended] at taken
      cases taken
      rfl
    · rw [going] at taken
      cases taken
  | case3 text found rest taken inductionHypothesis =>
    rcases round?_reads text with ended | ⟨_, _, going, _, read⟩
    · rw [ended] at taken
      cases taken
    · rw [going] at taken
      cases taken
      rw [inductionHypothesis, read]
      rfl

end Template
end Sqlwright
