import PolicyScan.Proofs.Json.Skip

/-!
# Values apart from their numbers

The compact text of a value does not always bring its numbers back: the digits of a
binary64 value can be read as one of its neighbours.  All else comes back
(`outline_of_ofChars?`), and so do all texts and truth values wherever they stand in
the value.
-/

namespace PolicyScan.Json

/-! ## Outlines -/

mutual

/-- The value with the same number in place of all its numbers. -/
def outline : Json → Json
  | .num _ => .num (.ofWord 0)
  | .arr items => .arr (outlineItems items)
  | .obj fields => .obj (outlineFields fields)
  | value => value

/-- The outlines of items. -/
def outlineItems : List Json → List Json
  | [] => []
  | item :: rest => outline item :: outlineItems rest

/-- The fields with the outlines of their values. -/
def outlineFields : List (String × Json) → List (String × Json)
  | [] => []
  | (key, value) :: rest => (key, outline value) :: outlineFields rest

end

theorem outlineItems_eq_map (items : List Json) : outlineItems items = items.map outline := by
  induction items with
  | nil => rfl
  | cons item rest ih => rw [outlineItems, ih, List.map_cons]

theorem outlineFields_eq_map (fields : List (String × Json)) :
    outlineFields fields = fields.map fun (key, value) => (key, outline value) := by
  induction fields with
  | nil => rfl
  | cons field rest ih => rw [outlineFields, ih, List.map_cons]

theorem keys_outlineFields (fields : List (String × Json)) :
    (outlineFields fields).map Prod.fst = fields.map Prod.fst := by
  rw [outlineFields_eq_map, List.map_map]
  rfl

theorem outline_eq_str_iff {v : Json} {text : String} : v.outline = .str text ↔ v = .str text := by
  cases v <;> simp [outline]

theorem outline_eq_bool_iff {v : Json} {b : Bool} : v.outline = .bool b ↔ v = .bool b := by
  cases v <;> simp [outline]

mutual

/-- The outline keeps the keys in order. -/
theorem canonical_outline_iff : (v : Json) → (v.outline.Canonical ↔ v.Canonical)
  | .null => Iff.rfl
  | .bool _ => Iff.rfl
  | .num _ => Iff.rfl
  | .str _ => Iff.rfl
  | .arr items => by
      rw [outline, Canonical, Canonical]
      exact canonicalItems_outline_iff items
  | .obj fields => by
      rw [outline, Canonical, Canonical, keys_outlineFields]
      exact and_congr_right fun _ => canonicalFields_outline_iff fields

theorem canonicalItems_outline_iff : (items : List Json) →
    (CanonicalItems (outlineItems items) ↔ CanonicalItems items)
  | [] => Iff.rfl
  | item :: rest =>
      and_congr (canonical_outline_iff item) (canonicalItems_outline_iff rest)

theorem canonicalFields_outline_iff : (fields : List (String × Json)) →
    (CanonicalFields (outlineFields fields) ↔ CanonicalFields fields)
  | [] => Iff.rfl
  | (_, value) :: rest =>
      and_congr (canonical_outline_iff value) (canonicalFields_outline_iff rest)

end

/-- What stands below a row of keys. -/
def path? (v : Json) : List String → Option Json
  | [] => some v
  | key :: rest => (v.get? key).bind fun v => v.path? rest

/-- The items of an array or the values of an object's fields. -/
def members? : Json → Option (List Json)
  | .arr items => some items
  | .obj fields => some (fields.map Prod.snd)
  | _ => none

/-- The members of what stands below a row of keys; there are none if nothing does. -/
def membersAt (v : Json) (keys : List String) : List Json :=
  ((v.path? keys).bind members?).getD []

/-- What stands below a row of keys has members, if anything does. -/
def IsCollectionAt (v : Json) (keys : List String) : Prop :=
  ∀ w, v.path? keys = some w → w.members?.isSome

theorem get?_outline (key : String) (v : Json) :
    v.outline.get? key = (v.get? key).map outline := by
  cases v with
  | obj fields =>
      rw [outline, get?, get?]
      induction fields with
      | nil => rfl
      | cons field rest ih =>
          rcases field with ⟨other, value⟩
          rw [outlineFields, List.lookup_cons, List.lookup_cons]
          cases key == other with
          | true => rfl
          | false => exact ih
  | _ => rfl

theorem path?_outline (keys : List String) (v : Json) :
    v.outline.path? keys = (v.path? keys).map outline := by
  induction keys generalizing v with
  | nil => rfl
  | cons key keys ih =>
      rw [path?, path?, get?_outline]
      cases v.get? key with
      | none => rfl
      | some w => exact ih w

theorem members?_outline (v : Json) :
    v.outline.members? = v.members?.map (List.map outline) := by
  cases v with
  | arr items => rw [outline, members?, members?, outlineItems_eq_map, Option.map_some]
  | obj fields =>
      rw [outline, members?, members?, outlineFields_eq_map, List.map_map, Option.map_some,
        List.map_map]
      rfl
  | _ => rfl

theorem membersAt_outline (v : Json) (keys : List String) :
    v.outline.membersAt keys = (v.membersAt keys).map outline := by
  rw [membersAt, membersAt, path?_outline]
  cases v.path? keys with
  | none => rfl
  | some w =>
      rw [Option.map_some, Option.bind_some, Option.bind_some, members?_outline]
      cases w.members? <;> rfl

theorem isCollectionAt_outline_iff {v : Json} {keys : List String} :
    v.outline.IsCollectionAt keys ↔ v.IsCollectionAt keys := by
  rw [IsCollectionAt, IsCollectionAt, path?_outline]
  simp only [Option.map_eq_some_iff, forall_exists_index, and_imp, forall_apply_eq_imp_iff₂,
    members?_outline, Option.isSome_map]

/-- A text or a truth value is the same in the outline. -/
theorem path?_outline_eq_some_iff {v w : Json} {keys : List String}
    (exact : ∀ u : Json, u.outline = w ↔ u = w) :
    v.outline.path? keys = some w ↔ v.path? keys = some w := by
  rw [path?_outline, Option.map_eq_some_iff]
  simp only [exact, exists_eq_right]

theorem canonical_of_get? {v : Json} (canonical : v.Canonical) {key : String} {w : Json}
    (found : v.get? key = some w) : w.Canonical := by
  cases v with
  | obj fields =>
      obtain ⟨-, all⟩ := canonical_obj_iff.mp canonical
      rw [get?, List.lookup_eq_some_iff] at found
      obtain ⟨before, after, rfl, -⟩ := found
      exact all (key, w) (by simp)
  | _ => cases found

theorem canonical_of_path? {v : Json} (canonical : v.Canonical) {keys : List String} {w : Json}
    (found : v.path? keys = some w) : w.Canonical := by
  induction keys generalizing v with
  | nil => exact Option.some.inj found ▸ canonical
  | cons key keys ih =>
      obtain ⟨u, isField, found⟩ := Option.bind_eq_some_iff.mp found
      exact ih (canonical_of_get? canonical isField) found

theorem canonical_of_members? {v : Json} (canonical : v.Canonical) {members : List Json}
    (isCollection : v.members? = some members) : ∀ w ∈ members, w.Canonical := by
  cases v with
  | arr items =>
      cases isCollection
      exact canonical_arr_iff.mp canonical
  | obj fields =>
      cases isCollection
      intro w member
      obtain ⟨field, isField, rfl⟩ := List.mem_map.mp member
      exact (canonical_obj_iff.mp canonical).2 field isField
  | _ => cases isCollection

theorem canonical_of_mem_membersAt {v : Json} (canonical : v.Canonical) {keys : List String} :
    ∀ w ∈ v.membersAt keys, w.Canonical := by
  rw [membersAt]
  cases stands : (v.path? keys).bind members? with
  | none => simp
  | some members =>
      obtain ⟨u, found, isCollection⟩ := Option.bind_eq_some_iff.mp stands
      exact canonical_of_members? (canonical_of_path? canonical found) isCollection

/-! ## Where a number ends -/

theorem skipDigits_of_ne_nil {s : List Char} (nonempty : (digits s).1 ≠ []) :
    skipDigits s = .ok (digits s).2 := by
  rw [skipDigits]
  split
  · next equal => exact absurd (congrArg Prod.fst equal) nonempty
  · next equal => rw [equal]

theorem digits_cons {c : Char} (digit : isDigit c) (s : List Char) :
    digits (c :: s) = (c :: (digits s).1, (digits s).2) := by
  simp [digits, List.span_eq_takeWhile_dropWhile, digit]

/-- The digits of an exponent end where the digits of any number do, and one that goes
beyond stands among them. -/
theorem digits_exponentDigits {n m : Nat} {beyond : Bool} {s left : List Char}
    (read : exponentDigits n s = (m, beyond, left)) :
    (digits s).2 = if beyond then (digits left).2 else left := by
  induction s generalizing n with
  | nil =>
      cases read
      rfl
  | cons c s ih =>
      simp only [exponentDigits] at read
      split at read
      · next digit =>
          rw [digits_cons digit]
          split at read
          · exact ih read
          · cases read
            rfl
      · next notDigit =>
          cases read
          simp [digits, List.span_eq_takeWhile_dropWhile, notDigit]

section

variable {negative : Bool} {significand dropped : Nat} {base : Int} {s rest : List Char}
  {n : Number}

theorem skipDigits_of_withExponent
    (done : withExponent negative significand base s = .ok (n, rest)) :
    skipDigits (exponentSign s).2 = .ok rest := by
  rcases signed : exponentSign s with ⟨down, unsigned⟩
  simp only [withExponent, signed] at done
  split at done
  · contradiction
  · next c tail =>
      split at done
      · contradiction
      · next digit =>
          simp only [Bool.not_eq_true', Bool.not_eq_false] at digit
          rw [skipDigits_of_ne_nil (by simp [digits_cons digit])]
          split at done
          · next m left read =>
              obtain ⟨rfl, -⟩ := finish_eq_ok done
              exact congrArg Except.ok (digits_exponentDigits read)
          · next m left read =>
              split at done
              · contradiction
              · obtain ⟨rfl, -⟩ := finish_eq_ok done
                exact congrArg Except.ok (digits_exponentDigits read)

theorem skipExponent_of_exponential
    (done : exponential negative significand base s = .ok (n, rest)) :
    skipExponent s = .ok rest := by
  unfold exponential at done
  split at done
  · exact skipDigits_of_withExponent done
  · exact skipDigits_of_withExponent done
  · next notE notUpperE =>
      obtain ⟨rfl, -⟩ := finish_eq_ok done
      rw [skipExponent]
      · exact notE
      · exact notUpperE

theorem skipFraction_of_fractional
    (done : fractional negative significand dropped s = .ok (n, rest)) :
    skipFraction s = .ok rest := by
  by_cases pointed : ∃ tail, s = '.' :: tail
  · obtain ⟨tail, rfl⟩ := pointed
    have nonempty := digits_ne_nil_of_fractional done
    rw [fractional_point rfl nonempty] at done
    simp only [skipFraction, skipDigits_of_ne_nil nonempty, bind, Except.bind]
    exact skipExponent_of_exponential done
  · have notPoint : ∀ tail, s ≠ '.' :: tail := fun tail equal => pointed ⟨tail, equal⟩
    rw [fractional_of_ne_point notPoint] at done
    rw [skipFraction]
    · exact skipExponent_of_exponential done
    · exact notPoint

theorem skipFraction_of_afterWhole {ds : List Char}
    (done : number.afterWhole negative ds s = .ok (n, rest)) : skipFraction s = .ok rest := by
  unfold number.afterWhole at done
  dsimp only at done
  split at done
  · exact skipFraction_of_fractional done
  · next notInFraction =>
      rw [Bool.or_eq_true, not_or] at notInFraction
      have passed : skipFraction s = .ok s := by
        have notStarts := notInFraction.1
        unfold skipFraction
        split
        · exact absurd rfl notStarts
        · unfold skipExponent
          split
          · exact absurd rfl notStarts
          · exact absurd rfl notStarts
          · rfl
      split at done
      · obtain ⟨rfl, -⟩ := finish_eq_ok done
        exact passed
      · split at done
        · cases done
          exact passed
        · obtain ⟨rfl, -⟩ := finish_eq_ok done
          exact passed

theorem skipNumber_of_number (done : number negative s = .ok (n, rest)) :
    skipNumber s = .ok rest := by
  unfold number at done
  split at done
  · contradiction
  · next d tail =>
      split at done
      · contradiction
      · next notDigit =>
          rw [skipNumber, if_neg notDigit]
          exact skipFraction_of_afterWhole done
  · next c tail notZero =>
      split at done
      · next digit =>
          rw [skipNumber]
          · rw [skipDigits_of_ne_nil (by simp [digits_cons digit])]
            exact skipFraction_of_afterWhole done
          · simpa using notZero
      · contradiction

/-- A reader that finds a number where a numeral stands stops at the end of the numeral. -/
theorem eq_of_readNumber {text : List Char} (numeral : Numeral text) (ends : EndsNumber rest)
    {left : List Char} (done : readNumber (text ++ rest) = .ok (n, left)) : left = rest := by
  cases numeral with
  | unsigned isUnsigned =>
      obtain ⟨c, tail, rfl, digit⟩ := isUnsigned.exists_cons
      rw [List.cons_append, readNumber_of_isDigit digit, ← List.cons_append] at done
      exact Except.ok.inj ((skipNumber_of_number done).symm.trans (skipNumber_append isUnsigned ends))
  | negative isUnsigned =>
      exact Except.ok.inj ((skipNumber_of_number done).symm.trans (skipNumber_append isUnsigned ends))

end

/-! ## Written values -/

theorem separated_nil (first : Bool) : separated first [] = [] := by
  cases first <;> rfl

mutual

/-- The compact text of a value writes it. -/
theorem written_compactChars : (v : Json) → Written v (compactChars v)
  | .null => .null
  | .bool true => .isTrue
  | .bool false => .isFalse
  | .num n => .num n (numeral_text n)
  | .str text => written_quote text
  | .arr items => .arr .empty (writtenItems_compactItems true items)
  | .obj fields => .obj .empty (writtenFields_compactFields true fields)

/-- So do the texts of the items of an array. -/
theorem writtenItems_compactItems (first : Bool) : (items : List Json) →
    WrittenItems first items (separated first (compactItems items))
  | [] => by
      rw [compactItems, separated_nil]
      exact .nil
  | item :: rest => by
      rw [compactItems, separated_cons]
      exact .cons .empty (written_compactChars item) .empty (writtenItems_compactItems false rest)

/-- So do the texts of the fields of an object. -/
theorem writtenFields_compactFields (first : Bool) : (fields : List (String × Json)) →
    WrittenFields first fields (separated first (compactFields fields))
  | [] => by
      rw [compactFields, separated_nil]
      exact .nil
  | (key, value) :: rest => by
      rw [compactFields, separated_cons]
      exact .quoted .empty key .empty (written_compactChars value) .empty
        (writtenFields_compactFields false rest)

end

/-- Fields whose outlines are those of sorted fields make up their object as they are. -/
theorem outline_ofFields {fields found : List (String × Json)} (sorted : SortedKeys fields)
    (same : outlineFields found = outlineFields fields) :
    (ofFields found).outline = (Json.obj fields).outline := by
  have keys : found.map Prod.fst = fields.map Prod.fst := by
    rw [← keys_outlineFields, same, keys_outlineFields]
  rw [ofFields_of_sorted (by rw [SortedKeys, keys]; exact sorted), outline, outline, same]

/-- What is read up to this depth where a value is written differs from it in numbers only,
and ends where its text does. -/
def ReadsOutlines (n : Nat) : Prop :=
  ∀ ⦃v w : Json⦄ ⦃text rest left : List Char⦄, Written v text → v.Canonical → ∀ gap : Gap,
    EndsNumber rest → valueWithin n (gap.chars ++ (text ++ rest)) = .ok (w, left) →
      left = rest ∧ w.outline = v.outline

section

variable {n : Nat} {first : Bool} {text rest left bound : List Char}

theorem WrittenItems.outline_of_itemsWith (each : ReadsOutlines n) {items found acc : List Json}
    (written : WrittenItems first items text) (canonical : CanonicalItems items) (gap : Gap)
    (read : itemsWith (valueWithin n) bound first (gap.chars ++ (text ++ ']' :: rest)) acc =
      .ok (found, left)) :
    left = rest ∧ outlineItems found = outlineItems (acc.reverse ++ items) := by
  induction items generalizing first text bound acc gap with
  | nil =>
      rcases bound with _ | ⟨b, bound⟩
      · rw [itemsWith] at read
        contradiction
      cases written with
      | nil =>
          rw [List.nil_append, itemsWith_nil] at read
          cases read
          exact ⟨rfl, by rw [List.append_nil]⟩
  | cons item others ih =>
      rcases bound with _ | ⟨b, bound⟩
      · rw [itemsWith] at read
        contradiction
      cases written with
      | cons before itemWritten after restWritten =>
          obtain ⟨c, tail, rfl, starts⟩ := itemWritten.exists_cons
          simp only [List.append_assoc, List.cons_append] at read
          rw [itemsWith_cons _ _ _ starts, itemsWith.next] at read
          obtain ⟨⟨w, behind⟩, itemRead, read⟩ := bind_eq_ok_iff.mp read
          obtain ⟨rfl, same⟩ := each itemWritten canonical.1 .empty
            (restWritten.endsNumber after rest) itemRead
          obtain ⟨rfl, others⟩ := ih restWritten canonical.2 after read
          refine ⟨rfl, ?_⟩
          simp only [outlineItems_eq_map] at others ⊢
          simpa [same] using others

theorem WrittenFields.outline_of_fieldsWith (each : ReadsOutlines n)
    {fields found acc : List (String × Json)} (written : WrittenFields first fields text)
    (canonical : CanonicalFields fields) (gap : Gap)
    (read : fieldsWith (valueWithin n) bound first (gap.chars ++ (text ++ '\x7d' :: rest)) acc =
      .ok (found, left)) :
    left = rest ∧ outlineFields found = outlineFields (acc.reverse ++ fields) := by
  induction fields generalizing first text bound acc gap with
  | nil =>
      rcases bound with _ | ⟨b, bound⟩
      · rw [fieldsWith] at read
        contradiction
      cases written with
      | nil =>
          rw [List.nil_append, fieldsWith, keyStart_nil] at read
          cases read
          exact ⟨rfl, by rw [List.append_nil]⟩
  | cons field others ih =>
      rcases bound with _ | ⟨b, bound⟩
      · rw [fieldsWith] at read
        contradiction
      cases written with
      | cons before key afterKey beforeValue valueWritten after restWritten =>
          simp only [List.append_assoc, List.cons_append] at read
          rw [fieldsWith, keyStart_cons] at read
          simp only [bind, Except.bind, string_append, colon_append] at read
          obtain ⟨⟨w, behind⟩, valueRead, read⟩ := bind_eq_ok_iff.mp read
          obtain ⟨rfl, same⟩ := each valueWritten canonical.1 beforeValue
            (restWritten.endsNumber after rest) valueRead
          obtain ⟨rfl, others⟩ := ih restWritten canonical.2 after read
          refine ⟨rfl, ?_⟩
          simp only [outlineFields_eq_map] at others ⊢
          simpa [same] using others

/-- A value reads its items one level deeper. -/
theorem readsOutlines_of_deeper (deeper : ∀ m, n = m + 1 → ReadsOutlines m) : ReadsOutlines n := by
  intro v w text rest left written canonical gap ends read
  have start := written.dropBlanks_append gap rest
  cases written with
  | num m numeral =>
      obtain ⟨c, tail, rfl, numeric⟩ := numeral.exists_cons
      rw [valueWithin_of_number start numeric] at read
      obtain ⟨⟨m, left⟩, numberRead, equal⟩ := map_eq_ok_iff.mp read
      cases equal
      exact ⟨eq_of_readNumber numeral ends numberRead, rfl⟩
  | str glyphs =>
      simp only [List.cons_append, List.append_assoc, List.nil_append] at start
      rw [valueWithin_of_quote (by simpa using start), string_append] at read
      cases read
      exact ⟨rfl, rfl⟩
  | arr inner itemsWritten =>
      cases n with
      | zero =>
          rw [valueWithin_zero_of_bracket (by simpa using start)] at read
          contradiction
      | succ n =>
          rw [valueWithin_of_bracket (by simpa using start)] at read
          obtain ⟨⟨found, left⟩, itemsRead, equal⟩ := map_eq_ok_iff.mp read
          cases equal
          obtain ⟨rfl, same⟩ :=
            itemsWritten.outline_of_itemsWith (deeper n rfl) canonical inner itemsRead
          refine ⟨rfl, ?_⟩
          rw [outline, outline, same]
          rfl
  | obj inner fieldsWritten =>
      cases n with
      | zero =>
          rw [valueWithin_zero_of_brace (by simpa using start)] at read
          contradiction
      | succ n =>
          rw [valueWithin_of_brace (by simpa using start)] at read
          obtain ⟨⟨found, left⟩, fieldsRead, equal⟩ := map_eq_ok_iff.mp read
          cases equal
          obtain ⟨rfl, same⟩ :=
            fieldsWritten.outline_of_fieldsWith (deeper n rfl) canonical.2 inner fieldsRead
          exact ⟨rfl, outline_ofFields canonical.1 same⟩
  | _ =>
      rw [valueWithin.eq_def] at read
      simp only [start] at read
      cases read
      exact ⟨rfl, rfl⟩

theorem readsOutlines (n : Nat) : ReadsOutlines n := by
  induction n with
  | zero => exact readsOutlines_of_deeper fun _ equal => by contradiction
  | succ n ih => exact readsOutlines_of_deeper fun _ equal => Nat.succ.inj equal ▸ ih

end

/-- The compact text of a canonical value is read as a value that differs in numbers only,
if it is read. -/
theorem outline_of_ofChars? {v w : Json} (canonical : v.Canonical)
    (read : ofChars? (compactChars v) = .ok w) : w.outline = v.outline := by
  obtain ⟨⟨found, left⟩, valueRead, done⟩ := bind_eq_ok_iff.mp read
  obtain ⟨⟨⟩, -, equal⟩ := bind_eq_ok_iff.mp done
  cases equal
  rw [← List.append_nil (compactChars v)] at valueRead
  exact (readsOutlines _ (written_compactChars v) canonical .empty
    (fun c rest equal => by contradiction) valueRead).2

end PolicyScan.Json
