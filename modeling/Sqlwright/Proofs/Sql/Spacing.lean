import Sqlwright.Proofs.Sql.Writing

/-!
# What may follow a chunk

Between two chunks there is a space, unless one of them brings its own boundary. So what
stands behind a chunk that is no punctuation is a space, a closing sign, or nothing at all.
That is all that readers of a written text need to know of the rules of spacing. Raw text can
bring a boundary that is none; it is left aside here where it does.
-/

namespace Sqlwright.Sql

/-- What may stand behind a chunk that is no punctuation: a space, or a sign that closes or
separates. -/
def boundaries : List Char := [' ', ')', ',', ';', '.']

/-- A sign as the character that it is. -/
def Punctuation.mark : Punctuation → Char
  | .leftParen => '('
  | .rightParen => ')'
  | .comma => ','
  | .semicolon => ';'
  | .point => '.'

theorem Punctuation.toList_text (sign : Punctuation) : sign.text.toList = [sign.mark] := by
  cases sign <;> rfl

namespace Chunk

/-- Whether a chunk is a punctuation sign. -/
def isPunctuation : Chunk → Bool
  | .token t => t.isPunctuation
  | _ => false

/-- Whether a chunk is raw text. -/
def isRaw : Chunk → Bool
  | .raw _ => true
  | _ => false

/-- A chunk that does not join its neighbours by itself: it is no raw text, or raw text that
neither begins nor ends with a boundary of its own. -/
structure Loose (chunk : Chunk) : Prop where
  next : chunk.joinsNext = false
  previous : chunk.joinsPrevious = false

/-- Only raw text joins its neighbours. -/
theorem loose_of_not_raw {chunk : Chunk} (plain : chunk.isRaw = false) : chunk.Loose := by
  cases chunk with
  | raw text => cases plain
  | _ => exact ⟨rfl, rfl⟩

/-- Without a space, what follows a word or a comparison sign is a closing sign. -/
theorem sign_of_not_spaced {current next : Chunk} (loose : current.Loose)
    (looseNext : next.Loose) (word : current.isPunctuation = false)
    (joined : current.spaced next = false) :
    ∃ sign, next = .token (.punctuation sign) ∧ sign ≠ .leftParen := by
  have kept : (current.joinsNext || next.joinsPrevious) = false := by
    rw [loose.next, looseNext.previous]
    rfl
  unfold spaced at joined
  rw [kept] at joined
  rcases next with (sign | sign | word') | _ | _ | _ | _ | _
  case token.punctuation =>
    refine ⟨sign, rfl, ?_⟩
    rintro rfl
    rcases current with (_ | _ | _) | _ | _ | _ | _ | _ <;>
      simp_all [isPunctuation, Token.isPunctuation, isWord, Token.isComparison]
  all_goals
    rcases current with (_ | _ | _) | _ | _ | _ | _ | _ <;>
      simp_all [isPunctuation, Token.isPunctuation, isWord, Token.isComparison]

end Chunk

namespace Fragment

variable (dialect : Dialect) (parameter : String → String)

/-- A fragment that begins with a sign is written with its character in front. -/
theorem toList_write_sign (sign : Punctuation) (rest : Fragment) :
    ∃ after, (write dialect parameter (.token (.punctuation sign) :: rest)).toList =
      sign.mark :: after := by
  have spelled : (Chunk.spelled dialect parameter (.token (.punctuation sign))).toList =
      [sign.mark] := sign.toList_text
  cases rest with
  | nil => exact ⟨[], by rw [write_singleton, spelled]⟩
  | cons next rest =>
    refine ⟨(space (.token (.punctuation sign)) next ++
      write dialect parameter (next :: rest)).toList, ?_⟩
    rw [write_cons_cons, String.toList_append, spelled]
    rfl

/-- Behind a word or a comparison sign there is a space or a closing sign. It is a point only
where a point has been asked for. -/
theorem head?_after {current next : Chunk} {rest : Fragment} (loose : current.Loose)
    (looseNext : next.Loose) (word : current.isPunctuation = false) :
    ∃ c ∈ boundaries,
      (space current next ++ write dialect parameter (next :: rest)).toList.head? = some c ∧
        (c = '.' → next = .token (.punctuation .point)) := by
  unfold space
  cases spaced : current.spaced next with
  | true => exact ⟨' ', by decide, by simp, fun same => absurd same (by decide)⟩
  | false =>
    obtain ⟨sign, rfl, closing⟩ := Chunk.sign_of_not_spaced loose looseNext word spaced
    obtain ⟨after, written⟩ := toList_write_sign dialect parameter sign rest
    refine ⟨sign.mark, ?_, ?_, ?_⟩
    · cases sign <;> first | exact absurd rfl closing | decide
    · simp [written]
    · cases sign <;> first | exact fun _ => rfl | exact fun same => absurd same (by decide)

end Fragment
end Sqlwright.Sql
