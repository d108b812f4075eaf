import PolicyScan.Proofs.Json.Outline
import PolicyScan.Proofs.Violation.Meaning

/-!
# Texts of records

A text of a value is read as the record that the value is read as, however it is laid out
(`ofText_eq_ok_iff`).  So a record is read back from its object and from the array of its
values, and an object or an array gives the fields that it has, with defaults for the
others (`ofText_readsExactly`).
-/

namespace PolicyScan.Violation

open Json (Gap Written)

/-! ## Values of the right kind -/

/-- A value of the kind of a field. -/
def Field.Admits (f : Field) (given : Json) : Prop :=
  match f with
  | .severity => ∃ s : Severity, given = .str s.name
  | .policyKind => ∃ kind : PolicyKind, given = .str kind.name
  | .references => ∃ texts : List String, given = .arr (texts.map .str)
  | _ => ∃ text : String, given = .str text

/-- A value that a field can be read from: one of its kind, or for a name also the object
whose one field has the name and is null. -/
def Field.Takes (f : Field) (given : Json) : Prop :=
  f.Admits given ∨ f.isName ∧ ∃ name, f.Admits (.str name) ∧ given = .obj [(name, .null)]

namespace Field

variable {f : Field} {given : Json} {v w : Violation}

theorem not_admits_obj (fields : List (String × Json)) : ¬f.Admits (.obj fields) := by
  cases f <;> exact fun ⟨_, equal⟩ => by cases equal

/-- A value of the kind of a field can be put into every record. -/
theorem exists_put?_of_admits (admits : f.Admits given) (v : Violation) :
    ∃ w, f.put? v given = some w := by
  cases f with
  | severity =>
      obtain ⟨s, rfl⟩ := admits
      refine ⟨{ v with severity := s }, ?_⟩
      have known : Severity.options.lookup s.name = some s := Severity.ofName?_name s
      rw [put?, Json.named?, known, Option.map_some]
  | policyKind =>
      obtain ⟨kind, rfl⟩ := admits
      refine ⟨{ v with policyKind := kind }, ?_⟩
      rw [put?, Json.named?, lookup_policyKind_iff.mpr rfl, Option.map_some]
  | references =>
      obtain ⟨texts, rfl⟩ := admits
      refine ⟨{ v with references := texts }, ?_⟩
      rw [put?, Json.items?, Option.bind_some, mapM_text?_eq_some_iff.mpr rfl, Option.map_some]
  | _ =>
      obtain ⟨text, rfl⟩ := admits
      exact ⟨_, rfl⟩

/-- The values of a kind are those that the field has in records. -/
theorem admits_iff : f.Admits given ↔ ∃ w, f.value w = given := by
  constructor
  · intro admits
    obtain ⟨w, isPut⟩ := exists_put?_of_admits admits {}
    obtain ⟨isValue | ⟨-, name, -, rfl⟩, -⟩ := f.put?_eq_some_iff.mp isPut
    · exact ⟨w, isValue.symm⟩
    · exact absurd admits (not_admits_obj _)
  · rintro ⟨w, rfl⟩
    cases f <;> exact ⟨_, rfl⟩

theorem takes_iff : f.Takes given ↔ ∃ w, f.Gives given w := by
  simp only [Takes, Gives, admits_iff, exists_or, @eq_comm _ given]
  refine or_congr_right ?_
  constructor
  · rintro ⟨isName, name, ⟨w, isValue⟩, isObject⟩
    exact ⟨w, isName, name, isValue, isObject⟩
  · rintro ⟨w, isName, name, isValue, isObject⟩
    exact ⟨isName, name, ⟨w, isValue⟩, isObject⟩

/-- A value of the kind of a field is the field's value. -/
theorem Gives.eq_of_admits (isGiven : f.Gives given w) (admits : f.Admits given) :
    f.value w = given := by
  rcases isGiven with isValue | ⟨-, name, -, rfl⟩
  · exact isValue.symm
  · exact absurd admits (not_admits_obj _)

/-- A value that a field takes can be put into every record. -/
theorem exists_put?_of_takes (takes : f.Takes given) (v : Violation) :
    ∃ w, f.put? v given = some w := by
  obtain ⟨w, isGiven⟩ := takes_iff.mp takes
  refine ⟨f.copy w v, f.put?_eq_some_iff.mpr ⟨isGiven.of_value_eq f.value_copy_self, ?_⟩⟩
  exact (f.copy_copy_self v w).symm

end Field

/-! ## Records from fields -/

section

variable {v : Violation} {given : List (Field × Json)}

theorem exists_fill? {seen : List Field} (once : (given.map Prod.fst).Nodup)
    (unseen : ∀ f ∈ given.map Prod.fst, f ∉ seen)
    (takes : ∀ f value, (f, value) ∈ given → f.Takes value) :
    ∃ w, fill? seen v given = some w := by
  induction given generalizing seen v with
  | nil => exact ⟨v, rfl⟩
  | cons entry rest ih =>
      obtain ⟨f, value⟩ := entry
      obtain ⟨notAgain, restOnce⟩ := List.nodup_cons.mp once
      rw [List.map_cons, List.forall_mem_cons] at unseen
      obtain ⟨v', isPut⟩ := Field.exists_put?_of_takes (takes f value List.mem_cons_self) v
      rw [fill?, if_neg unseen.1, isPut, Option.bind_some]
      refine ih restOnce (fun g member => ?_)
        fun g other member => takes g other (List.mem_cons_of_mem _ member)
      rw [List.mem_cons, not_or]
      exact ⟨ne_of_mem_of_not_mem member notAgain, unseen.2 g member⟩

/-- Fields make up a record just if none is given twice and each takes its value. -/
theorem exists_fills_iff :
    (∃ w, Fills v given w) ↔
      (given.map Prod.fst).Nodup ∧ ∀ f value, (f, value) ∈ given → f.Takes value := by
  constructor
  · rintro ⟨w, filled⟩
    exact ⟨filled.once, fun f value member =>
      Field.takes_iff.mpr ⟨w, filled.gives f value member⟩⟩
  · rintro ⟨once, takes⟩
    have unseen : ∀ f ∈ given.map Prod.fst, f ∉ [] := fun _ _ => List.not_mem_nil
    obtain ⟨w, filled⟩ : ∃ w, fill? [] v given = some w := exists_fill? once unseen takes
    exact ⟨w, (fill?_eq_some_iff.mp filled).1⟩

/-- Fields with values of their kinds make up a record that has these values. -/
theorem exists_record (once : (given.map Prod.fst).Nodup)
    (admits : ∀ f value, (f, value) ∈ given → f.Admits value) :
    ∃ w, Fills {} given w ∧ (∀ f value, (f, value) ∈ given → f.value w = value) ∧
      ∀ f, f ∉ given.map Prod.fst → f.value w = f.value {} := by
  obtain ⟨w, filled⟩ := exists_fills_iff.mpr
    ⟨once, fun f value member => .inl (admits f value member)⟩
  exact ⟨w, filled, fun f value member =>
    (filled.gives f value member).eq_of_admits (admits f value member), filled.others⟩

theorem map_fst_values (w : Violation) :
    (Field.all.map fun f => (f, f.value w)).map Prod.fst = Field.all := by
  rw [List.map_map]
  exact List.map_id Field.all

/-- The values of a record make it up. -/
theorem fills_values (w : Violation) : Fills {} (Field.all.map fun f => (f, f.value w)) w where
  once := by
    rw [map_fst_values]
    decide
  gives := by
    intro f value member
    obtain ⟨g, -, equal⟩ := List.mem_map.mp member
    cases equal
    exact .inl rfl
  others := by
    intro f absent
    rw [map_fst_values] at absent
    exact absurd f.mem_all absent

end

/-- The values of a record in the order of its fields. -/
def valuesJson (v : Violation) : Json := .arr (Field.all.map fun f => f.value v)

theorem knownFields_fieldsOf (w : Violation) (keys : List Field) :
    knownFields (w.fieldsOf keys) = keys.map fun f => (f, f.value w) := by
  rw [knownFields, fieldsOf, List.filterMap_map, ← List.filterMap_eq_map]
  refine List.filterMap_congr fun f _ => ?_
  simp only [Function.comp_apply, Field.ofKey?_key, Option.map_some]

/-- The object of a record is read as the record. -/
theorem reads_toJson (v : Violation) : Reads v.toJson v := by
  rw [toJson_eq]
  refine .object ?_
  rw [knownFields_fieldsOf]
  exact fills_values v

/-- So is the array of its values. -/
theorem reads_valuesJson (v : Violation) : Reads v.valuesJson v := by
  refine .array (List.length_map _).le ?_
  rw [← List.map_prod_left_eq_zip]
  exact fills_values v

/-! ## Texts -/

/-- A text of a value, in any layout and with blanks around it. -/
def IsTextOf (text : String) (given : Json) : Prop :=
  ∃ (before after : Gap) (chars : List Char), Written given chars ∧
    text.toList = before.chars ++ (chars ++ after.chars)

theorem isTextOf_compact (given : Json) : IsTextOf given.compact given :=
  ⟨.empty, .empty, _, Json.written_compactChars given, by
    rw [Json.compact, String.toList_ofList, Gap.empty, List.nil_append, List.append_nil]⟩

theorem isTextOf_pretty (given : Json) : IsTextOf given.pretty given :=
  ⟨.empty, .empty, _, Json.written_prettyChars 0 given, by
    rw [Json.pretty, String.toList_ofList, Gap.empty, List.nil_append, List.append_nil]⟩

section

variable {text : String} {given : Json} {w : Violation}

/-- A text is read as the record that its value is read as. -/
theorem ofText_eq_ok_iff (isText : IsTextOf text given) : ofText text = .ok w ↔ Reads given w := by
  obtain ⟨before, after, chars, written, textEq⟩ := isText
  have understood := understands_read written before after.chars
  rw [← Json.toOption_eq_some_iff, ofText, Json.toOption_mapError, Json.wholly, Json.toOption_bind,
    textEq, understood, ← ofJson?_eq_some_iff]
  cases ofJson? given with
  | none => rfl
  | some v =>
      simp only [Option.map_some, Option.bind_some, Json.atEnd_gap]
      rfl

theorem exists_ofText_eq_error (isText : IsTextOf text given) (unread : ¬∃ w, Reads given w) :
    ∃ error, ofText text = .error error := by
  cases read : ofText text with
  | ok w => exact absurd ⟨w, (ofText_eq_ok_iff isText).mp read⟩ unread
  | error error => exact ⟨error, rfl⟩

end

/-- What reading gives for a value, and when it fails. -/
structure ReadsExactly (given : Json) (outcome : Except String Violation) : Prop where
  exact : ∀ w, outcome = .ok w ↔ Reads given w
  /-- Known fields that stand there at most once, with values of their kinds, are read,
  and the other fields of the record have their defaults. -/
  object : ∀ fields, given = .obj fields → ((knownFields fields).map Prod.fst).Nodup →
    (∀ f value, (f, value) ∈ knownFields fields → f.Admits value) →
      ∃ w, outcome = .ok w ∧ (∀ f value, (f, value) ∈ knownFields fields → f.value w = value) ∧
        ∀ f, f ∉ (knownFields fields).map Prod.fst → f.value w = f.value {}
  repeated : ∀ fields, given = .obj fields → ¬((knownFields fields).map Prod.fst).Nodup →
    ∃ error, outcome = .error error
  misfit : ∀ fields f value, given = .obj fields → (f, value) ∈ knownFields fields →
    ¬f.Takes value → ∃ error, outcome = .error error
  /-- The values of the first fields are read, and the other fields have their defaults. -/
  array : ∀ items, given = .arr items → items.length ≤ Field.all.length →
    (∀ f value, (f, value) ∈ Field.all.zip items → f.Admits value) →
      ∃ w, outcome = .ok w ∧ (∀ f value, (f, value) ∈ Field.all.zip items → f.value w = value) ∧
        ∀ f ∈ Field.all.drop items.length, f.value w = f.value {}
  long : ∀ items, given = .arr items → Field.all.length < items.length →
    ∃ error, outcome = .error error

/-- The fields of the values of an array are the first ones. -/
theorem map_fst_zip_all {items : List Json} (short : items.length ≤ Field.all.length) :
    (Field.all.zip items).map Prod.fst = Field.all.take items.length := by
  rw [List.zip_eq_zip_take_min, Nat.min_eq_right short, List.map_fst_zip]
  rw [List.length_take, List.take_length]
  exact Nat.min_le_left _ _

section

variable {text : String} {given : Json}

theorem readsExactly (isText : IsTextOf text given) : ReadsExactly given (ofText text) where
  exact := fun _ => ofText_eq_ok_iff isText
  object := by
    rintro fields rfl once admits
    obtain ⟨w, filled, values, defaults⟩ := exists_record once admits
    exact ⟨w, (ofText_eq_ok_iff isText).mpr (.object filled), values, defaults⟩
  repeated := by
    rintro fields rfl twice
    refine exists_ofText_eq_error isText ?_
    rintro ⟨w, ⟨filled⟩⟩
    exact twice filled.once
  misfit := by
    rintro fields f value rfl member misfit
    refine exists_ofText_eq_error isText ?_
    rintro ⟨w, ⟨filled⟩⟩
    exact misfit (Field.takes_iff.mpr ⟨w, filled.gives f value member⟩)
  array := by
    rintro items rfl short admits
    have once : (Field.all.take items.length).Nodup := (by decide : Field.all.Nodup).take
    rw [← map_fst_zip_all short] at once
    obtain ⟨w, filled, values, defaults⟩ := exists_record once admits
    refine ⟨w, (ofText_eq_ok_iff isText).mpr (.array short filled), values, fun f member => ?_⟩
    refine defaults f fun given => ?_
    rw [map_fst_zip_all short] at given
    exact List.disjoint_take_drop (by decide : Field.all.Nodup) (Nat.le_refl _) given member
  long := by
    rintro items rfl long
    refine exists_ofText_eq_error isText ?_
    rintro ⟨w, isRead⟩
    cases isRead with
    | array short _ => exact Nat.not_le_of_gt long short

end

/-- Records are read back from the texts of their objects and of the arrays of their
values, and every text is read as its value says. -/
theorem ofText_readsExactly :
    (∀ v : Violation, ∀ given ∈ [v.toJson, v.valuesJson],
      ofText given.compact = .ok v ∧ ofText given.pretty = .ok v ∧
        ∀ text, IsTextOf text given → ofText text = .ok v) ∧
      ∀ (text : String) (given : Json), IsTextOf text given → ReadsExactly given (ofText text) := by
  refine ⟨fun v given member => ?_, fun text given isText => readsExactly isText⟩
  have isRead : Reads given v := by
    rcases List.mem_pair.mp member with rfl | rfl
    · exact reads_toJson v
    · exact reads_valuesJson v
  have readsBack (text : String) (isText : IsTextOf text given) : ofText text = .ok v :=
    (ofText_eq_ok_iff isText).mpr isRead
  exact ⟨readsBack _ (isTextOf_compact given), readsBack _ (isTextOf_pretty given), readsBack⟩

/-- An object with two known fields out of order and an unknown one between them. -/
def mixedFields : Json :=
  .obj [("severity", .str "high"), ("extra", .arr [.obj [], .null]), ("id", .str "open")]

theorem ofText_readsExactly_mixedFields :
    ofText mixedFields.compact = .ok { id := "open", severity := .high } := by
  have reads := ofText_readsExactly.2 _ _ (isTextOf_compact mixedFields)
  rw [reads.exact, ← ofJson?_eq_some_iff]
  decide

end PolicyScan.Violation
