import PricePublisher.Json.Access
import PricePublisher.Json.Decoder
import PricePublisher.Proofs.Json.Written

/-!
# Reading records that were written

A record is written as an object whose names are all different, so each name that is
asked for is found once or not at all, in whatever order the fields stand.
-/

namespace PricePublisher.Json.Decoder

open Value (fieldDocuments)

variable {α : Type}

theorem namedFields?_documents (fields : List (String × Value)) :
    namedFields? (fieldDocuments fields) =
      some (fields.map fun field => (field.1, field.2.document)) := by
  induction fields with
  | nil => rfl
  | cons field rest induction =>
      rcases field with ⟨name, value⟩
      rw [namedFields?] at induction ⊢
      rw [fieldDocuments, List.mapM_cons, induction]
      simp only [TextUnit.toText?_ofText, Option.map_some, Option.bind_eq_bind, Option.bind_some,
        Option.pure_def, List.map_cons]

theorem onlyField?_documents
    {fields : List (String × Value)} (distinct : (fields.map Prod.fst).Nodup) (name : String) :
    onlyField? (fields.map fun field => (field.1, field.2.document)) name =
      some ((fields.lookup name).map Value.document) := by
  induction fields with
  | nil => rfl
  | cons field rest induction =>
      rcases List.nodup_cons.mp distinct with ⟨absent, distinct⟩
      have later := induction distinct
      rcases field with ⟨other, value⟩
      by_cases same : other = name
      · subst same
        have others : (rest.map fun field => (field.1, field.2.document)).filter
            (fun field => field.1 == other) = [] := by
          rw [List.filter_eq_nil_iff]
          intro field member
          rcases List.mem_map.mp member with ⟨entry, there, rfl⟩
          intro equal
          exact absent (List.mem_map.mpr ⟨entry, there, by simpa using equal⟩)
        simp [onlyField?, others]
      · have skipped : (name == other) = false := by simp [Ne.symm same]
        rw [List.lookup_cons, skipped]
        simpa [onlyField?, same] using later

/-- The fields of a record that was written with different names. -/
theorem recordFields?_document
    {fields : List (String × Value)} (distinct : (fields.map Prod.fst).Nodup)
    (names : List String) (room : Nat) :
    recordFields? names (room + 1) (Value.object fields).document =
      some (names.map fun name => (fields.lookup name).map Value.document) := by
  have found : onlyField? (fields.map fun field => (field.1, field.2.document)) =
      fun name => some ((fields.lookup name).map Value.document) :=
    funext (onlyField?_documents distinct)
  rw [Value.document, recordFields?, namedFields?_documents, Option.bind_eq_bind,
    Option.bind_some, found]
  exact List.mapM_pure

@[simp]
theorem text_document (room : Nat) (content : String) :
    text room (Value.text content).document = some content := by
  rw [Value.document, text, TextUnit.toText?_ofText]

/-- A whole number of 64 bits with sign reads back. -/
theorem int64_document
    {value : Int} (lower : -(Nat.pow 2 63 : Nat) ≤ value) (upper : value < (Nat.pow 2 63 : Nat))
    (room : Nat) :
    int64 room (Value.number (.integer value)).document = some value := by
  have exact : Number.IsExactInteger value := ⟨lower, by simp only [Nat.pow_eq] at *; omega⟩
  have means := (Number.ReadsBack.integer exact).toNumber?_numeral
  have whole : (Number.numeral (.integer value)).toInt? = some value := by
    rw [Numeral.toNumber?] at means
    cases written : (Number.numeral (.integer value)).toInt? with
    | some other =>
        rw [written] at means
        cases means
        rfl
    | none =>
        rw [written] at means
        rcases Option.map_eq_some_iff.mp means with ⟨_, _, impossible⟩
        cases impossible
  rw [Value.document, int64, whole]
  exact if_pos upper

theorem alternative_document
    {ofName? : String → Option α} {name : String} {choice : α} (named : ofName? name = some choice)
    (room : Nat) :
    alternative ofName? room (Value.text name).document = some choice := by
  rw [Value.document, alternative, TextUnit.toText?_ofText]
  exact named

/-- A field that is written only if there is a value for it. -/
theorem omittable_document
    {decoder : Decoder α} {room : Nat} {encode : α → Value} {held : Option α}
    (notNull : ∀ content ∈ held, encode content ≠ .null)
    (reads : ∀ content ∈ held, decoder room (encode content).document = some content) :
    omittable decoder room ((held.map encode).map Value.document) = some held := by
  cases held with
  | none => rfl
  | some content =>
      have one := reads content rfl
      rw [Option.map_some, Option.map_some, omittable]
      cases written : encode content with
      | null => exact absurd written (notNull content rfl)
      | _ =>
          rw [written] at one
          rw [Value.document] at one ⊢
          simp only [optional, one, Option.map_some]

/-- An array of texts reads back. -/
theorem texts_document (room : Nat) (contents : List String) :
    list text (room + 1) (Value.ofTexts contents).document = some contents := by
  have each : (Value.itemDocuments (contents.map .text)).mapM (text room) = some contents := by
    induction contents with
    | nil => rfl
    | cons content rest induction =>
        rw [List.map_cons, Value.itemDocuments, List.mapM_cons, text_document, induction]
        rfl
  rw [Value.ofTexts, Value.document, list, each]

/-- Entries that were written in any order read back, if each of them does. -/
theorem keyed_document
    {decoder : Decoder α} {room : Nat} {encode : α → Value} {entries written : List (String × α)}
    (ascending : Keyed.Ascending entries) (permuted : written.Perm entries)
    (reads : ∀ entry ∈ entries, decoder room (encode entry.2).document = some entry.2) :
    keyed decoder (room + 1) (Value.object (Keyed.mapValues encode written)).document =
      some entries := by
  have each : ∀ written : List (String × α),
      (∀ entry ∈ written, decoder room (encode entry.2).document = some entry.2) →
      ((Keyed.mapValues encode written).map fun field => (field.1, field.2.document)).mapM
        (fun field => (decoder room field.2).map fun entry => (field.1, entry)) =
          some written := by
    intro written reads
    induction written with
    | nil => rfl
    | cons entry rest induction =>
        rw [List.forall_mem_cons] at reads
        have first := reads.1
        have others := induction reads.2
        rw [Keyed.mapValues] at others ⊢
        simp only [List.map_cons, List.mapM_cons, first, others, Option.map_some,
          Option.bind_eq_bind, Option.bind_some, Option.pure_def]
  rw [Value.document, keyed, namedFields?_documents, Option.bind_eq_bind, Option.bind_some,
    each written fun entry held => reads entry (permuted.mem_iff.mp held)]
  exact congrArg some (ascending.ofList_eq_of_perm permuted)

end PricePublisher.Json.Decoder
