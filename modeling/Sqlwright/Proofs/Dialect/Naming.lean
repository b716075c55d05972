import Sqlwright.Dialect.Name
import Sqlwright.Proofs.Text.Undoubling

/-!
# Reading quoted names

A reader of a name takes the opening quote, then everything up to the first closing quote that
is not doubled, and collapses the pairs. It accepts exactly the names that a dialect writes, and
stops exactly behind them, so that no name can reach into the text that follows it. All that this
asks is that no further closing quote follows at once.

Behind a name, a point announces that the name was a schema and that another one follows. Since
a point within a name stands between its quotes, no two pairs of schema and name are written
alike.
-/

namespace Sqlwright.Dialect

/-- The name in quotes with which a text begins, and what follows it. -/
def name? (dialect : Dialect) : List Char → Option (String × List Char)
  | [] => none
  | c :: inner =>
    if c = dialect.openQuote then
      (Text.closed? dialect.closeQuote inner).map fun (name, rest) => (String.ofList name, rest)
    else none

/-- The schema and the name with which a text begins, and what follows them. A name is a schema
if a point stands behind it. -/
def qualified? (dialect : Dialect) (text : List Char) :
    Option (Option String × String × List Char) :=
  match dialect.name? text with
  | none => none
  | some (schema, '.' :: inner) =>
    (dialect.name? inner).map fun (name, rest) => (some schema, name, rest)
  | some (name, rest) => some (none, name, rest)

variable {dialect : Dialect} {text rest : List Char} {name : String}

/-- The characters of a name in quotes. -/
theorem toList_quotedName (dialect : Dialect) (name : String) (rest : List Char) :
    (dialect.quotedName name).toList ++ rest = dialect.openQuote ::
      (Text.doubled (· == dialect.closeQuote) name.toList ++ dialect.closeQuote :: rest) := by
  simp [quotedName]

/-- A name in quotes is read back, and the reader stops behind it. -/
theorem name?_quotedName (single : rest.head? ≠ some dialect.closeQuote) (name : String) :
    dialect.name? ((dialect.quotedName name).toList ++ rest) = some (name, rest) := by
  rw [toList_quotedName, name?, if_pos rfl, Text.closed?_doubled single, Option.map_some]
  exact congrArg (fun read => some (read, rest)) String.ofList_toList

/-- Reading accepts exactly the names that are written. -/
theorem name?_eq_some_iff : dialect.name? text = some (name, rest) ↔
    text = (dialect.quotedName name).toList ++ rest ∧ rest.head? ≠ some dialect.closeQuote := by
  constructor
  · intro found
    unfold name? at found
    split at found
    · cases found
    · split at found
      · rename_i opens
        obtain ⟨⟨inner, _⟩, closed, same⟩ := Option.map_eq_some_iff.mp found
        cases same
        obtain ⟨written, single⟩ := Text.closed?_eq_some_iff.mp closed
        rw [toList_quotedName, opens, written, String.toList_ofList]
        exact ⟨rfl, single⟩
      · cases found
  · rintro ⟨rfl, single⟩
    exact name?_quotedName single name

/-- No closing quote is a point. -/
theorem closeQuote_ne_point (dialect : Dialect) : '.' ≠ dialect.closeQuote := by
  cases dialect <;> decide

/-- A name behind its schema is written as two names with a point between them. -/
theorem toList_qualifiedName (dialect : Dialect) (schema name : String) (rest : List Char) :
    (dialect.qualifiedName (some schema) name).toList ++ rest =
      (dialect.quotedName schema).toList ++ '.' :: ((dialect.quotedName name).toList ++ rest) := by
  simp [qualifiedName]

/-- The same of names with and without a schema. A name without one must not be followed by a
point. -/
theorem qualified?_eq_some_iff {schema : Option String} :
    dialect.qualified? text = some (schema, name, rest) ↔
      text = (dialect.qualifiedName schema name).toList ++ rest ∧
        rest.head? ≠ some dialect.closeQuote ∧ (schema = none → rest.head? ≠ some '.') := by
  constructor
  · intro found
    unfold qualified? at found
    split at found
    · cases found
    · rename_i first inner outer
      obtain ⟨⟨_, _⟩, second, same⟩ := Option.map_eq_some_iff.mp found
      cases same
      obtain ⟨written, _⟩ := name?_eq_some_iff.mp outer
      obtain ⟨rfl, single⟩ := name?_eq_some_iff.mp second
      rw [toList_qualifiedName]
      exact ⟨written, single, nofun⟩
    · rename_i noPoint read
      cases found
      obtain ⟨written, single⟩ := name?_eq_some_iff.mp read
      refine ⟨written, single, fun _ point => ?_⟩
      obtain ⟨inner, rfl⟩ := List.head?_eq_some_iff.mp point
      exact noPoint _ rfl
  · rintro ⟨rfl, single, noPoint⟩
    cases schema with
    | none =>
      have read : dialect.name? ((dialect.qualifiedName none name).toList ++ rest) =
          some (name, rest) := name?_quotedName single name
      cases rest with
      | nil => rw [qualified?, read]
      | cons c rest =>
        have different : c ≠ '.' := fun same => noPoint rfl (congrArg some same)
        simp [qualified?, read, different]
    | some schema =>
      -- The reader of the schema stops in front of the point, as a point closes no name.
      have point : ('.' :: ((dialect.quotedName name).toList ++ rest)).head? ≠
          some dialect.closeQuote := fun same => closeQuote_ne_point dialect (Option.some.inj same)
      rw [toList_qualifiedName, qualified?, name?_quotedName point]
      simp [name?_quotedName single]

/-- Quoting loses nothing and ends by itself: a name is read exactly from its quoted form, in
front of any text that does not begin with a closing quote. So schema and name are known from the
text that they are written as. -/
theorem quoted_names_read_back (dialect : Dialect) :
    (∀ text name rest, dialect.name? text = some (name, rest) ↔
      text = (dialect.quotedName name).toList ++ rest ∧ rest.head? ≠ some dialect.closeQuote) ∧
    (∀ text schema name rest, dialect.qualified? text = some (schema, name, rest) ↔
      text = (dialect.qualifiedName schema name).toList ++ rest ∧
        rest.head? ≠ some dialect.closeQuote ∧ (schema = none → rest.head? ≠ some '.')) ∧
    (∀ schema name otherSchema otherName,
      dialect.qualifiedName schema name = dialect.qualifiedName otherSchema otherName →
        schema = otherSchema ∧ name = otherName) ∧
    (∀ name schema inner,
      dialect.qualifiedName none name ≠ dialect.qualifiedName (some schema) inner) := by
  have injective (schema : Option String) (name : String) (otherSchema : Option String)
      (otherName : String)
      (alike : dialect.qualifiedName schema name = dialect.qualifiedName otherSchema otherName) :
      schema = otherSchema ∧ name = otherName := by
    have read (schema : Option String) (name : String) :
        dialect.qualified? (dialect.qualifiedName schema name).toList = some (schema, name, []) :=
      qualified?_eq_some_iff.mpr ⟨(List.append_nil _).symm, nofun, fun _ => nofun⟩
    have first := read schema name
    rw [alike, read otherSchema otherName] at first
    cases first
    exact ⟨rfl, rfl⟩
  refine ⟨fun _ _ _ => name?_eq_some_iff, fun _ _ _ _ => qualified?_eq_some_iff, injective, ?_⟩
  intro name schema inner alike
  cases (injective _ _ _ _ alike).1

/-- In brackets, a name that ends with closing ones is read back in front of a point. -/
theorem bracketed_name_reads_back :
    ".[b]".toList.head? ≠ some (closeQuote .sqlserver) ∧
      name? .sqlserver "[[a]]]]].[b]".toList = some ("[a]]", ".[b]".toList) :=
  ⟨by decide, ((quoted_names_read_back .sqlserver).1 _ _ _).mpr ⟨by decide, by decide⟩⟩

end Sqlwright.Dialect
