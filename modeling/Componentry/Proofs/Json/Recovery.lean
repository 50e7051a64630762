import Componentry.Json.Reader
import Componentry.Proofs.Json.Scanning

/-!
# Reading what was written

The machine that puts tokens together has a document complete behind the tokens of that
document, whatever is open around it. So a text that spells a document is read as it, be it
compact or indented.
-/

namespace Componentry.Json

/-- The state behind tokens. -/
def readAll (reading : Reading) (tokens : List Token) : Option Reading :=
  tokens.foldlM read? reading

theorem readAll_nil (reading : Reading) : readAll reading [] = some reading := rfl

@[simp] theorem readAll_cons (reading : Reading) (token : Token) (tokens : List Token) :
    readAll reading (token :: tokens) =
      (read? reading token).bind fun next => readAll next tokens := rfl

@[simp] theorem readAll_append (reading : Reading) (tokens tokens' : List Token) :
    readAll reading (tokens ++ tokens') =
      (readAll reading tokens).bind fun next => readAll next tokens' := by
  rw [readAll, List.foldlM_append]
  rfl

/-- A document may start where an item or the end of an array is expected. -/
theorem readAll_firstItem (document : Json) (outer : List Frame) :
    readAll (.firstItem outer) (tokensOf document) =
      readAll (.document (.items [] :: outer)) (tokensOf document) := by
  cases document <;> rfl

mutual

/-- The tokens of a document complete it. -/
theorem readAll_tokensOf : ∀ (document : Json) (outer : List Frame),
    readAll (.document outer) (tokensOf document) = some (complete document outer)
  | null, outer => rfl
  | boolean b, outer => rfl
  | integer n, outer => rfl
  | double x, outer => rfl
  | string s, outer => rfl
  | unusable, outer => rfl
  | array [], outer => rfl
  | array (item :: rest), outer => by
      have hopen : readAll (.firstItem outer) (tokensOfItems (item :: rest)) =
          readAll (.document (.items [] :: outer)) (tokensOfItems (item :: rest)) := by
        cases rest <;> simp [tokensOfItems, readAll_firstItem]
      have hitems := readAll_tokensOfItems (item :: rest) [] outer (by simp)
      simp [tokensOf, read?, start?, hopen, hitems, readAll_nil]
  | object [], outer => rfl
  | object ((name, member) :: rest), outer => by
      have hopen : readAll (.firstName outer) (tokensOfMembers ((name, member) :: rest)) =
          readAll (.name [] true outer) (tokensOfMembers ((name, member) :: rest)) := by
        cases rest <;> rfl
      have hmembers := readAll_tokensOfMembers ((name, member) :: rest) [] outer (by simp)
      simp [tokensOf, read?, start?, hopen, hmembers, readAll_nil]

/-- The tokens of items put them onto those that an array has so far. -/
theorem readAll_tokensOfItems : ∀ (items done : List Json) (outer : List Frame), items ≠ [] →
    readAll (.document (.items done :: outer)) (tokensOfItems items) =
      some (.separator (.items (items.reverse ++ done) :: outer))
  | [], _, _, hne => absurd rfl hne
  | [item], done, outer, _ => readAll_tokensOf item (.items done :: outer)
  | item :: item' :: rest, done, outer, _ => by
      have hitem := readAll_tokensOf item (.items done :: outer)
      have hrest := readAll_tokensOfItems (item' :: rest) (item :: done) outer (by simp)
      simp only [tokensOfItems, readAll_append, hitem, Option.bind_some, readAll_cons, complete,
        read?, hrest]
      simp

/-- The tokens of members put them onto those that an object has so far. -/
theorem readAll_tokensOfMembers : ∀ (members done : List (String × Json)) (outer : List Frame),
    members ≠ [] → readAll (.name done true outer) (tokensOfMembers members) =
      some (.separator (.members (members.reverse ++ done) true :: outer))
  | [], _, _, hne => absurd rfl hne
  | [(name, member)], done, outer, _ =>
      readAll_tokensOf member (.named done true (some name) :: outer)
  | (name, member) :: member' :: rest, done, outer, _ => by
      have hmember := readAll_tokensOf member (.named done true (some name) :: outer)
      have hrest := readAll_tokensOfMembers (member' :: rest) ((name, member) :: done) outer (by simp)
      simp only [tokensOfMembers, List.cons_append, readAll_cons, readAll_append, read?, hmember,
        Option.bind_some, complete, hrest]
      simp

end

theorem ofTokens?_tokensOf (document : Json) : ofTokens? (tokensOf document) = some document := by
  have hread := readAll_tokensOf document []
  rw [readAll] at hread
  rw [ofTokens?, hread]
  rfl

/-- A text that spells a document is read as it. -/
theorem Spells.parse? {characters : List Char} {document : Json}
    (h : Spells characters (tokensOf document)) :
    Json.parse? (String.ofList characters) = some document := by
  have htokens := h [] (by simp [Delimits])
  rw [List.append_nil] at htokens
  simp [Json.parse?, htokens, tokens?, finish?, ofTokens?_tokensOf]

/-- The compact text of a document is read as it. -/
theorem parse?_compact {document : Json} (hplain : document.Plain) :
    parse? document.compact = some document :=
  (spells_compactChars document hplain).parse?

/-- The indented text of a document is read as it. -/
theorem parse?_indented {document : Json} (hplain : document.Plain) :
    parse? document.indented = some document :=
  (spells_indentedChars 0 document hplain).parse?

end Componentry.Json
