import PolicyScan.Proofs.Json.Meaning
import PolicyScan.Proofs.Violation

/-!
# Values that are read as violations

A value is read as a record if it is an object whose known fields stand there once and
have values of their kinds, or an array of no more values than there are fields
(`Reads`).  Fields that are not given have their defaults, and unknown ones do not count.
The reader finds exactly these records in the texts of values (`understands_read`).
-/

namespace PolicyScan.Violation

open Json (Gap Understands Written WrittenItems WrittenFields named? glyphText glyphChars comma)

/-! ## Values for fields -/

/-- The field is one of several names. -/
def Field.isName : Field → Bool
  | .severity => true
  | .policyKind => true
  | _ => false

/-- A value that gives a record its field: the value that the field has in the record, or
an object with a name for its only field, which is null. -/
def Field.Gives (f : Field) (given : Json) (w : Violation) : Prop :=
  given = f.value w ∨ f.isName ∧ ∃ name, f.value w = .str name ∧ given = .obj [(name, .null)]

/-- The record `v` with a field of the given value. -/
def Field.put? (f : Field) (v : Violation) (given : Json) : Option Violation :=
  let text (set : String → Violation) : Option Violation := given.text?.map set
  match f with
  | .id => text fun t => { v with id := t }
  | .publicId => text fun t => { v with publicId := t }
  | .type => text fun t => { v with type := t }
  | .subType => text fun t => { v with subType := t }
  | .title => text fun t => { v with title := t }
  | .description => text fun t => { v with description := t }
  | .severity => (named? Severity.options given).map fun x => { v with severity := x }
  | .msg => text fun t => { v with msg := t }
  | .policyKind => (named? PolicyKind.options given).map fun x => { v with policyKind := x }
  | .issue => text fun t => { v with issue := t }
  | .impact => text fun t => { v with impact := t }
  | .resolve => text fun t => { v with resolve := t }
  | .references =>
    (given.items?.bind (List.mapM Json.text?)).map fun x => { v with references := x }

theorem Field.understands_read (f : Field) (v : Violation) :
    Understands (f.read v) (f.put? v) := by
  intro given chars written gap rest
  have text := Json.understands_textValue written gap rest
  cases f with
  | severity =>
      rw [Field.read, Json.toOption_map, Json.understands_choice _ written, Field.put?,
        Option.map_map, Option.map_map]
      rfl
  | policyKind =>
      rw [Field.read, Json.toOption_map, Json.understands_choice _ written, Field.put?,
        Option.map_map, Option.map_map]
      rfl
  | references =>
      rw [Field.read, Json.toOption_map, Json.understands_textValue.listValue written, Field.put?,
        Option.map_map, Option.map_map]
      rfl
  | _ =>
      rw [Field.read, Json.toOption_map, text, Field.put?, Option.map_map, Option.map_map]
      rfl

section

variable {v w : Violation} {given : Json}

theorem text?_eq_some_iff {text : String} : given.text? = some text ↔ given = .str text := by
  cases given <;> simp [Json.text?]

theorem items?_eq_some_iff {items : List Json} :
    given.items? = some items ↔ given = .arr items := by
  cases given <;> simp [Json.items?]

theorem mapM_text?_eq_some_iff {items : List Json} {texts : List String} :
    items.mapM Json.text? = some texts ↔ items = texts.map .str := by
  induction items generalizing texts with
  | nil => cases texts <;> simp
  | cons item items ih => 
      cases texts <;> simp [List.mapM_cons, text?_eq_some_iff, ih, Option.bind_eq_some_iff]

theorem named?_eq_some_iff {α : Type} {options : List (String × α)} {x : α} :
    named? options given = some x ↔
      ∃ name, options.lookup name = some x ∧
        (given = .str name ∨ given = .obj [(name, .null)]) := by
  unfold named?
  split
  · simp
  · simp
  · next notText notObject =>
      refine iff_of_false (fun nothing => by contradiction) ?_
      rintro ⟨name, -, isText | isObject⟩
      · exact notText name isText
      · exact notObject name isObject

theorem lookup_severity_iff {name : String} {s : Severity} :
    Severity.options.lookup name = some s ↔ name = s.name := by
  constructor
  · exact fun known => (Severity.name_of_ofName? known).symm
  · rintro rfl
    exact Severity.ofName?_name s

theorem lookup_policyKind_iff {name : String} {kind : PolicyKind} :
    PolicyKind.options.lookup name = some kind ↔ name = kind.name := by
  cases kind
  rw [PolicyKind.options, List.lookup_cons]
  split
  · next same => exact iff_of_true rfl (beq_iff_eq.mp same)
  · next other => exact iff_of_false (by simp) (by simpa using other)

/-- A named value is the name, or the object with the name. -/
theorem map_named?_eq_some_iff {α : Type} {options : List (String × α)} {name : α → String}
    (known : ∀ {text x}, options.lookup text = some x ↔ text = name x) {set : α → Violation} :
    (named? options given).map set = some w ↔
      ∃ x, set x = w ∧ (given = .str (name x) ∨ given = .obj [(name x, .null)]) := by
  simp only [Option.map_eq_some_iff, named?_eq_some_iff, known, exists_eq_left]
  exact exists_congr fun x => and_comm

/-- A field is put into a record if the value gives it. -/
theorem Field.put?_eq_some_iff (f : Field) :
    f.put? v given = some w ↔ f.Gives given w ∧ w = f.copy w v := by
  cases f with
  | severity =>
      simp only [Field.put?, map_named?_eq_some_iff lookup_severity_iff, Field.Gives,
        Field.isName, Field.value, Field.copy, true_and, Json.str.injEq, exists_eq_left']
      constructor
      · rintro ⟨s, rfl, isGiven⟩
        exact ⟨isGiven, rfl⟩
      · rintro ⟨isGiven, equal⟩
        exact ⟨_, equal.symm, isGiven⟩
  | policyKind =>
      simp only [Field.put?, map_named?_eq_some_iff lookup_policyKind_iff, Field.Gives,
        Field.isName, Field.value, Field.copy, true_and, Json.str.injEq, exists_eq_left']
      constructor
      · rintro ⟨kind, rfl, isGiven⟩
        exact ⟨isGiven, rfl⟩
      · rintro ⟨isGiven, equal⟩
        exact ⟨_, equal.symm, isGiven⟩
  | references =>
      simp only [Field.put?, Option.map_eq_some_iff, Option.bind_eq_some_iff,
        mapM_text?_eq_some_iff, items?_eq_some_iff, Field.Gives, Field.isName, Field.value,
        Field.copy, Bool.false_eq_true, false_and, or_false]
      constructor
      · rintro ⟨texts, ⟨items, rfl, rfl⟩, rfl⟩
        exact ⟨rfl, rfl⟩
      · rintro ⟨rfl, equal⟩
        exact ⟨_, ⟨_, rfl, rfl⟩, equal.symm⟩
  | _ =>
      simp only [Field.put?, Option.map_eq_some_iff, text?_eq_some_iff, Field.Gives, Field.isName,
        Field.value, Field.copy, Bool.false_eq_true, false_and, or_false]
      constructor
      · rintro ⟨text, rfl, rfl⟩
        exact ⟨rfl, rfl⟩
      · rintro ⟨rfl, equal⟩
        exact ⟨_, rfl, equal.symm⟩

/-- Whether a value gives a field depends on this field only. -/
theorem Field.Gives.of_value_eq {f : Field} (isGiven : f.Gives given v)
    (same : f.value w = f.value v) : f.Gives given w := by
  rwa [Field.Gives, same]

end

theorem Field.copy_copy_self (f : Field) (v w : Violation) :
    f.copy (f.copy w v) v = f.copy w v := by
  cases f <;> rfl

/-! ## Values for several fields -/

/-- The record `v` with the given fields, none of which is in `seen` or comes twice. -/
def fill? (seen : List Field) (v : Violation) : List (Field × Json) → Option Violation
  | [] => some v
  | (f, value) :: rest =>
    if f ∈ seen then none else (f.put? v value).bind fun v => fill? (f :: seen) v rest

/-- The given fields make up the record, and the others are those of `v`. -/
structure Fills (v : Violation) (given : List (Field × Json)) (w : Violation) : Prop where
  once : (given.map Prod.fst).Nodup
  gives : ∀ f value, (f, value) ∈ given → f.Gives value w
  others : ∀ f, f ∉ given.map Prod.fst → f.value w = f.value v

/-- A further field in front, whose value stands in a record that is filled later. -/
theorem Fills.cons {f : Field} {value : Json} {rest : List (Field × Json)} {v v' w : Violation}
    (notAgain : f ∉ rest.map Prod.fst) (isGiven : f.Gives value v') (copied : v' = f.copy v' v)
    (filled : Fills v' rest w) : Fills v ((f, value) :: rest) w where
  once := List.nodup_cons.mpr ⟨notAgain, filled.once⟩
  gives := by
    intro g given member
    rcases List.mem_cons.mp member with equal | member
    · obtain ⟨rfl, rfl⟩ := Prod.mk.inj equal
      exact isGiven.of_value_eq (filled.others g notAgain)
    · exact filled.gives g given member
  others := by
    intro g absent
    rw [List.map_cons, List.mem_cons, not_or] at absent
    rw [filled.others g absent.2, copied, Field.value_copy_of_ne absent.1]

/-- The first field is put in, and the others fill the record from there. -/
theorem Fills.tail {f : Field} {value : Json} {rest : List (Field × Json)} {v w : Violation}
    (filled : Fills v ((f, value) :: rest) w) : Fills (f.copy w v) rest w where
  once := (List.nodup_cons.mp filled.once).2
  gives := fun g given member => filled.gives g given (List.mem_cons_of_mem _ member)
  others := by
    intro g absent
    by_cases same : g = f
    · rw [same, Field.value_copy_self]
    · rw [Field.value_copy_of_ne same]
      exact filled.others g (by simp [same, absent])

theorem fill?_eq_some_iff {seen : List Field} {v w : Violation} {given : List (Field × Json)} :
    fill? seen v given = some w ↔
      Fills v given w ∧ ∀ f ∈ given.map Prod.fst, f ∉ seen := by
  induction given generalizing seen v with
  | nil =>
      rw [fill?, Option.some.injEq]
      constructor
      · rintro rfl
        exact ⟨⟨List.nodup_nil, by simp, fun _ _ => rfl⟩, by simp⟩
      · rintro ⟨filled, -⟩
        exact ext_value fun f => (filled.others f List.not_mem_nil).symm
  | cons entry rest ih =>
      obtain ⟨f, value⟩ := entry
      rw [fill?, List.map_cons, List.forall_mem_cons]
      constructor
      · intro filled
        split at filled
        · contradiction
        · next unseen =>
            obtain ⟨v', isPut, filled⟩ := Option.bind_eq_some_iff.mp filled
            obtain ⟨isGiven, copied⟩ := f.put?_eq_some_iff.mp isPut
            obtain ⟨restFills, restUnseen⟩ := ih.mp filled
            have notAgain : f ∉ rest.map Prod.fst :=
              fun member => restUnseen f member List.mem_cons_self
            exact ⟨restFills.cons notAgain isGiven copied, unseen,
              fun g member => mt (List.mem_cons_of_mem f) (restUnseen g member)⟩
      · rintro ⟨filled, unseen, restUnseen⟩
        have notAgain : f ∉ rest.map Prod.fst := (List.nodup_cons.mp filled.once).1
        have isPut : f.put? v value = some (f.copy w v) := by
          apply f.put?_eq_some_iff.mpr
          refine ⟨(filled.gives f value List.mem_cons_self).of_value_eq f.value_copy_self, ?_⟩
          exact (f.copy_copy_self v w).symm
        rw [if_neg unseen, isPut, Option.bind_some]
        refine ih.mpr ⟨filled.tail, fun g member => ?_⟩
        rw [List.mem_cons, not_or]
        exact ⟨ne_of_mem_of_not_mem member notAgain, restUnseen g member⟩

/-- The fields of an object that are known. -/
def knownFields (fields : List (String × Json)) : List (Field × Json) :=
  fields.filterMap fun (key, value) => (Field.ofKey? key).map (·, value)

/-- A value that is read as a record: an object with its fields, or an array of the
values of its first fields. -/
inductive Reads : Json → Violation → Prop
  | object {fields : List (String × Json)} {w : Violation}
    (fills : Fills {} (knownFields fields) w) : Reads (.obj fields) w
  | array {items : List Json} {w : Violation} (short : items.length ≤ Field.all.length)
    (fills : Fills {} (Field.all.zip items) w) : Reads (.arr items) w

/-- The record that a value is read as. -/
def ofJson? : Json → Option Violation
  | .obj fields => fill? [] {} (knownFields fields)
  | .arr items =>
    if items.length ≤ Field.all.length then fill? [] {} (Field.all.zip items) else none
  | _ => none

theorem ofJson?_eq_some_iff {value : Json} {w : Violation} :
    ofJson? value = some w ↔ Reads value w := by
  have fills (given : List (Field × Json)) : fill? [] {} given = some w ↔ Fills {} given w := by
    rw [fill?_eq_some_iff]
    exact and_iff_left fun f _ => List.not_mem_nil
  cases value with
  | obj fields =>
      rw [ofJson?, fills]
      exact ⟨.object, fun | .object isFilled => isFilled⟩
  | arr items =>
      rw [ofJson?]
      split
      · next short =>
          rw [fills]
          exact ⟨.array short, fun | .array _ isFilled => isFilled⟩
      · next long =>
          exact iff_of_false (by simp) fun | .array short _ => long short
  | _ => exact iff_of_false (by simp [ofJson?]) (by rintro ⟨⟩)

/-- A value is read as one record only. -/
theorem Reads.unique {value : Json} {v w : Violation} (first : Reads value v)
    (second : Reads value w) : v = w :=
  Option.some.inj ((ofJson?_eq_some_iff.mpr first).symm.trans (ofJson?_eq_some_iff.mpr second))

/-! ## Texts of records -/

section

variable (gap before afterKey : Gap) {first : Bool} {bound s : List Char} {b : Char}
  {seen : List Field} {v : Violation} {key : List Json.Glyph}

/-- The value of an unknown field is passed over. -/
theorem readFields_unknown (unknown : Field.ofKey? (glyphText key) = none) :
    readFields (b :: bound) first seen v (gap.chars ++ (comma first ++ (before.chars ++
      '"' :: (glyphChars key ++ '"' :: (afterKey.chars ++ ':' :: s))))) = (do
        readFields bound false seen v (← Json.skip s)) := by
  rw [readFields, Json.keyStart_cons]
  simp only [bind, Except.bind, Json.string_append, Json.colon_append, unknown]

/-- The value of a known field is read, if the field does not stand there again. -/
theorem readFields_known {f : Field} (known : Field.ofKey? (glyphText key) = some f)
    (unseen : f ∉ seen) :
    readFields (b :: bound) first seen v (gap.chars ++ (comma first ++ (before.chars ++
      '"' :: (glyphChars key ++ '"' :: (afterKey.chars ++ ':' :: s))))) = (do
        let (v, rest) ← f.read v s
        readFields bound false (f :: seen) v rest) := by
  rw [readFields, Json.keyStart_cons]
  simp only [bind, Except.bind, Json.string_append, Json.colon_append, known, if_neg unseen]

theorem readFields_repeated {f : Field} (known : Field.ofKey? (glyphText key) = some f)
    (again : f ∈ seen) :
    readFields (b :: bound) first seen v (gap.chars ++ (comma first ++ (before.chars ++
      '"' :: (glyphChars key ++ '"' :: (afterKey.chars ++ ':' :: s))))) =
        .error (repeated f (afterKey.chars ++ ':' :: s)) := by
  rw [readFields, Json.keyStart_cons]
  simp only [bind, Except.bind, Json.string_append, known, if_pos again]
  rfl

end

theorem toOption_readFields {fields : List (String × Json)} {text : List Char}
    {first : Bool} (written : WrittenFields first fields text) (seen : List Field) (v : Violation)
    (gap : Gap) (rest : List Char) {bound : List Char} (enough : fields.length < bound.length) :
    (readFields bound first seen v (gap.chars ++ (text ++ '\x7d' :: rest))).toOption =
      (fill? seen v (knownFields fields)).map (·, rest) := by
  induction fields generalizing first text seen v gap bound with
  | nil =>
      rcases bound with _ | ⟨b, bound⟩
      · simp at enough
      · cases written with
        | nil =>
            rw [List.nil_append, readFields, Json.keyStart_nil]
            rfl
  | cons field fields ih =>
      rcases bound with _ | ⟨b, bound⟩
      · simp at enough
      · cases written with
        | @cons _ value _ valueText others before key afterKey beforeValue valueWritten after
            restWritten =>
            have enoughLeft : fields.length < bound.length := by simpa using enough
            simp only [List.append_assoc, List.cons_append]
            cases known : Field.ofKey? (glyphText key) with
            | none =>
                have passed := Json.skip_written valueWritten beforeValue _
                  (restWritten.endsNumber after rest)
                simp only [knownFields, List.filterMap_cons, known, Option.map_none]
                rw [readFields_unknown gap before afterKey known, passed]
                exact ih restWritten seen v after enoughLeft
            | some f =>
                simp only [knownFields, List.filterMap_cons, known, Option.map_some, fill?]
                split
                · next again =>
                    rw [readFields_repeated gap before afterKey known again]
                    rfl
                · next unseen =>
                    rw [readFields_known gap before afterKey known unseen, Json.toOption_bind,
                      f.understands_read v valueWritten]
                    cases f.put? v value with
                    | none => rfl
                    | some v' => exact ih restWritten (f :: seen) v' after enoughLeft

theorem exists_listEnd_eq_error {s tail : List Char} {c : Char}
    (start : Json.dropBlanks s = c :: tail) (notEnd : c ≠ ']') :
    ∃ fault, listEnd s = .error fault := by
  rw [listEnd, start]
  split
  · contradiction
  · next equal => exact absurd (List.cons.inj equal).1 notEnd
  · split <;> exact ⟨_, rfl⟩
  · exact ⟨_, rfl⟩

/-- The record `v` with the values of the given fields, none if there are too many. -/
def fillInOrder? (fields : List Field) (v : Violation) : List Json → Option Violation
  | [] => some v
  | value :: rest =>
    match fields with
    | [] => none
    | f :: fields => (f.put? v value).bind fun v => fillInOrder? fields v rest

theorem fillInOrder?_eq {fields seen : List Field} (once : fields.Nodup)
    (unseen : ∀ f ∈ fields, f ∉ seen) (v : Violation) (items : List Json) :
    fillInOrder? fields v items =
      if items.length ≤ fields.length then fill? seen v (fields.zip items) else none := by
  induction items generalizing fields seen v with
  | nil => simp [fillInOrder?, fill?]
  | cons value items ih =>
      cases fields with
      | nil => simp [fillInOrder?]
      | cons f fields =>
          obtain ⟨notAgain, othersOnce⟩ := List.nodup_cons.mp once
          rw [List.forall_mem_cons] at unseen
          have othersUnseen : ∀ g ∈ fields, g ∉ f :: seen := by
            intro g member
            rw [List.mem_cons, not_or]
            refine ⟨?_, unseen.2 g member⟩
            rintro rfl
            exact notAgain member
          simp only [fillInOrder?, List.zip_cons_cons, fill?, if_neg unseen.1,
            ih othersOnce othersUnseen, List.length_cons, Nat.add_le_add_iff_right]
          split
          · rfl
          · cases f.put? v value <;> rfl

section

variable (gap before : Gap) {first : Bool} {c : Char} {s : List Char} (v : Violation)

/-- No value may follow those of all fields. -/
theorem exists_readValues_eq_error (starts : Json.StartsValue c) :
    ∃ fault, readValues [] first v (gap.chars ++ (comma first ++ (before.chars ++ c :: s))) =
      .error fault := by
  have start := Json.dropBlanks_part first gap before starts.1 s
  cases first with
  | true =>
      obtain ⟨fault, failed⟩ := exists_listEnd_eq_error start starts.2
      exact ⟨fault, by rw [readValues, failed]; rfl⟩
  | false =>
      obtain ⟨fault, failed⟩ := exists_listEnd_eq_error start (by decide)
      exact ⟨fault, by rw [readValues, failed]; rfl⟩

theorem readValues_cons (f : Field) (fields : List Field) (starts : Json.StartsValue c) :
    readValues (f :: fields) first v
        (gap.chars ++ (comma first ++ (before.chars ++ c :: s))) = (do
      let (v, rest) ← f.read v (c :: s)
      readValues fields false v rest) := by
  have start := Json.dropBlanks_part first gap before starts.1 s
  have behind : Json.dropBlanks (before.chars ++ c :: s) = c :: s := by
    rw [before.dropBlanks_append, Json.dropBlanks_cons_of_not_isBlank starts.1]
  rw [readValues, start]
  cases first with
  | true =>
      rw [if_pos rfl]
      split
      · contradiction
      · next equal => exact absurd (List.cons.inj equal).1 starts.2
      · next equal =>
          obtain ⟨rfl, rfl⟩ := List.cons.inj equal
          rfl
  | false =>
      rw [if_neg Bool.false_ne_true]
      split
      · contradiction
      · next equal => exact absurd (List.cons.inj equal).1 (by decide)
      · next equal =>
          obtain ⟨rfl, rfl⟩ := List.cons.inj equal
          rw [if_neg Bool.false_ne_true, if_pos rfl, behind]
          split
          · contradiction
          · next equal => exact absurd (List.cons.inj equal).1 starts.2
          · rfl

end

theorem toOption_readValues {items : List Json} {text : List Char}
    {first : Bool} (written : WrittenItems first items text) (fields : List Field) (v : Violation)
    (gap : Gap) (rest : List Char) :
    (readValues fields first v (gap.chars ++ (text ++ ']' :: rest))).toOption =
      (fillInOrder? fields v items).map (·, rest) := by
  induction items generalizing first text fields v gap with
  | nil =>
      cases written with
      | nil =>
          have atEnd : Json.dropBlanks (gap.chars ++ ([] ++ ']' :: rest)) = ']' :: rest := by
            rw [List.nil_append, gap.dropBlanks_append, Json.dropBlanks_cons_of_not_isBlank rfl]
          cases fields with
          | nil =>
              rw [readValues, listEnd, atEnd]
              rfl
          | cons f fields =>
              rw [readValues, atEnd]
              rfl
  | cons item items ih =>
      cases written with
      | @cons _ _ _ itemText others before itemWritten after restWritten =>
          obtain ⟨c, tail, rfl, starts⟩ := itemWritten.exists_cons
          simp only [List.append_assoc, List.cons_append]
          cases fields with
          | nil =>
              obtain ⟨fault, failed⟩ := exists_readValues_eq_error gap before v starts
              rw [failed]
              rfl
          | cons f fields =>
              have fieldRead := f.understands_read v itemWritten .empty
                (after.chars ++ (others ++ ']' :: rest))
              simp only [Gap.empty, List.nil_append, List.cons_append] at fieldRead
              rw [readValues_cons gap before v f fields starts, Json.toOption_bind, fieldRead,
                fillInOrder?]
              cases f.put? v item with
              | none => rfl
              | some v' => exact ih restWritten fields v' after

/-- The reader of a record understands the values that are read as records. -/
theorem understands_read : Understands read ofJson? := by
  intro value text written gap rest
  have start := written.dropBlanks_append gap rest
  cases written with
  | arr gap' itemsWritten =>
      have once : Field.all.Nodup := by decide
      rw [read, start, ofJson?, ← fillInOrder?_eq once fun _ _ => List.not_mem_nil]
      simp only [List.cons_append, List.append_assoc, List.nil_append]
      exact toOption_readValues itemsWritten Field.all {} gap' rest
  | @obj fields inner gap' fieldsWritten =>
      have := fieldsWritten.size_le
      have := Json.length_le_sizeFields fields
      rw [read, start, ofJson?]
      simp only [List.cons_append, List.append_assoc, List.nil_append]
      apply toOption_readFields fieldsWritten
      simp only [List.length_append, List.length_cons]
      omega
  | num n numeral =>
      obtain ⟨c, tail, rfl, numeric⟩ := numeral.exists_cons
      obtain ⟨-, notBracket, notBrace⟩ := Json.ne_of_numeric numeric
      rw [read, start]
      split
      · next equal => exact absurd (List.cons.inj equal).1 notBracket
      · next equal => exact absurd (List.cons.inj equal).1 notBrace
      · rfl
  | _ =>
      rw [read, start]
      rfl

/-- The indented text of a value is read as a list of records if the value is an array
of values that are read as records. -/
theorem toOption_listOfText_pretty (value : Json) :
    (listOfText value.pretty).toOption = value.items?.bind (List.mapM ofJson?) := by
  have understood := understands_read.listValue (Json.written_prettyChars 0 value) .empty []
  rw [Gap.empty, List.nil_append, List.append_nil] at understood
  rw [listOfText, Json.toOption_mapError, Json.wholly, Json.toOption_bind, Json.pretty,
    String.toList_ofList, understood, Option.bind_map]
  exact Option.bind_fun_some _

end PolicyScan.Violation
