import PolicyScan.Document
import PolicyScan.Proofs.Json.Reading
import PolicyScan.Proofs.JsonInYaml.Text
import PolicyScan.Proofs.JsonInYaml.Values
import PolicyScan.Proofs.Manifest

/-!
# Manifests written as JSON

A manifest of JSON is read as YAML.  What YAML makes of it is settled by the way
the text is written (`ReadsInYaml`): every character must be allowed, no tab may
stand around the object but on the line of its end, no string may hold a
surrogate pair or the mark of a document at the start of a line, and every key
must stand on one line with its colon and not too far from it.  Then the manifest
is one document, whose strings are folded; otherwise it is refused.
-/

namespace PolicyScan

namespace Json

variable {text : List Char} {before inner after : Gap} {fields : Fields}

/-! ## What YAML makes of the text -/

/-- What the text of a tree between two gaps must be like for YAML to read it. -/
structure ReadsInYaml (before : Gap) (tree : Tree) (after : Gap) : Prop where
  allowed : ∀ c ∈ before.chars ++ (tree.chars ++ after.chars), Yaml.isAllowed c
  untabbed : ¬IsTabbed before after
  readable : tree.Readable

/-- The text of an object is one document of YAML, or none at all. -/
theorem documents_object (ints : fields.AllInts)
    (fits : (Tree.obj inner fields).depth ≤ Yaml.nestingLimit)
    (textEq : text = before.chars ++ ((Tree.obj inner fields).chars ++ after.chars)) :
    ReadsAs (ReadsInYaml before (.obj inner fields) after) [(Tree.obj inner fields).node]
      (Yaml.documents text) := by
  have lexed := tokens_object ints textEq
  by_cases around : (∀ c ∈ text, Yaml.isAllowed c) ∧ ¬IsTabbed before after
  · rw [if_pos around] at lexed
    cases tokensEq : (Tree.obj inner fields).tokens? with
    | none =>
        rw [tokensEq] at lexed
        rcases lexed with ⟨fault, failed⟩
        refine .inr ⟨fun reads => ?_, fault, ?_⟩
        · have tokens := (Tree.obj inner fields).isSome_tokens? reads.readable
          rw [tokensEq] at tokens
          contradiction
        · rw [Yaml.documents, failed]
          rfl
    | some ts =>
        rw [tokensEq] at lexed
        have tokens : Yaml.tokens text = .ok ts := lexed
        rw [Yaml.documents, tokens]
        rcases documentsOf_tokens tokensEq fits with ⟨readable, done⟩ | ⟨unreadable, failed⟩
        · exact .inl ⟨⟨textEq ▸ around.1, around.2, readable⟩, done⟩
        · exact .inr ⟨fun reads => unreadable reads.readable, failed⟩
  · rw [if_neg around] at lexed
    rcases lexed with ⟨fault, failed⟩
    refine .inr ⟨fun reads => around ⟨textEq ▸ reads.allowed, reads.untabbed⟩, fault, ?_⟩
    rw [Yaml.documents, failed]
    rfl

/-- Its value is the folded one. -/
theorem values_object {content : String} (ints : fields.AllInts)
    (fits : (Tree.obj inner fields).depth ≤ Yaml.nestingLimit)
    (textEq : content.toList = before.chars ++ ((Tree.obj inner fields).chars ++ after.chars)) :
    ReadsAs (ReadsInYaml before (.obj inner fields) after) [(Tree.obj inner fields).foldedValue]
      (Yaml.values content) := by
  rw [Yaml.values]
  rcases documents_object ints fits textEq with ⟨reads, done⟩ | ⟨refused, fault, failed⟩
  · refine .inl ⟨reads, ?_⟩
    have value := (Tree.obj inner fields).toJson_node ints reads.readable fits
    rw [done]
    simp only [bind, Except.bind, List.mapM_cons, List.mapM_nil, value]
    rfl
  · refine .inr ⟨refused, fault, ?_⟩
    rw [failed]
    rfl

end Json

open Json (Tree Gap Fields ReadsInYaml)

namespace Manifest

open Json (isBlank)

/-! ## Manifests -/

theorem missingFields_eq_nil_iff {v : Json} :
    missingFields v = [] ↔ ∀ field ∈ requiredFields, (v.get? field).isSome := by
  rw [missingFields, List.filter_eq_nil_iff]
  refine forall₂_congr fun field _ => ?_
  cases v.get? field <;> simp

/-- Folding keeps the fields of an object. -/
theorem missingFields_foldedValue {inner : Gap} {fields : Fields}
    (complete : missingFields (Tree.obj inner fields).value = []) :
    missingFields (Tree.obj inner fields).foldedValue = [] := by
  rw [missingFields_eq_nil_iff] at complete ⊢
  intro field required
  have found := complete field required
  rw [Tree.value, Json.isSome_get?_ofFields] at found
  rw [Tree.foldedValue, Json.isSome_get?_ofFields, fields.keys_foldedValues]
  exact found

theorem isSkipped_cons_iff {c : Char} (white : Text.isWhite c) (rest : List Char) :
    IsSkipped (c :: rest) ↔ IsSkipped rest := by
  by_cases feed : c = '\n'
  · rw [IsSkipped, Text.lines, if_pos feed, List.forall_mem_cons]
    exact and_iff_right rfl
  · rcases exists_lines_cons feed rest with ⟨line, later, restEq, linesEq⟩
    rw [IsSkipped, IsSkipped, linesEq, restEq, List.forall_mem_cons, List.forall_mem_cons,
      isSkippedLine_cons_of_isWhite white]

theorem isWhite_of_isJsonBlank {c : Char} (blank : isBlank c) : Text.isWhite c := by
  rcases Yaml.isBlank_or_isBreak blank with gapBlank | ends
  · exact isWhite_of_isBlank gapBlank
  · exact isWhite_of_isBreak ends

/-- A text that starts with blanks and a sign is not skipped. -/
theorem not_isSkipped_of_sign {d : Char} {rest : List Char} (solid : ¬Text.isWhite d)
    (noComment : d ≠ '#') {blanks : List Char} (isBlanks : ∀ c ∈ blanks, isBlank c) :
    ¬IsSkipped (blanks ++ d :: rest) := by
  induction blanks with
  | nil =>
      intro skipped
      have noFeed : d ≠ '\n' := by
        rintro rfl
        exact solid rfl
      rcases exists_lines_cons noFeed rest with ⟨line, later, -, linesEq⟩
      rw [List.nil_append, IsSkipped, linesEq, List.forall_mem_cons,
        isSkippedLine_cons_of_not_isWhite solid] at skipped
      exact noComment (of_decide_eq_true skipped.1)
  | cons c blanks ih =>
      rw [List.forall_mem_cons] at isBlanks
      rw [List.cons_append, isSkipped_cons_iff (isWhite_of_isJsonBlank isBlanks.1)]
      exact ih isBlanks.2

theorem exists_obj_of_missingFields {tree : Tree} (complete : missingFields tree.value = []) :
    ∃ inner fields, tree = .obj inner fields := by
  have found := missingFields_eq_nil_iff.mp complete "kind" (by decide)
  cases tree with
  | obj inner fields => exact ⟨inner, fields, rfl⟩
  | _ => contradiction

/-- A manifest that is a tree with all required fields between two gaps. -/
theorem objects_tree {content : String} {before after : Gap} {tree : Tree} (ints : tree.AllInts)
    (fits : tree.depth ≤ Yaml.nestingLimit)
    (textEq : content.toList = before.chars ++ (tree.chars ++ after.chars))
    (complete : missingFields tree.value = []) :
    (ReadsInYaml before tree after ∧ objects content = .ok [tree.foldedValue]) ∨
      (¬ReadsInYaml before tree after ∧ ∃ fault, objects content = .error (.notYaml fault)) := by
  rcases exists_obj_of_missingFields complete with ⟨inner, fields, rfl⟩
  have content : hasContent content := by
    by_contra noContent
    rw [Bool.not_eq_true, hasContent_eq_false_iff, textEq] at noContent
    exact not_isSkipped_of_sign (by decide) (by decide) before.isBlank_of_mem noContent
  rw [objects, if_pos content]
  rcases Json.values_object ints fits textEq with ⟨reads, done⟩ | ⟨refused, fault, failed⟩
  · refine .inl ⟨reads, ?_⟩
    have checked : check 0 [(Tree.obj inner fields).foldedValue] = .ok () := by
      rw [check, missingFields_foldedValue complete]
      rfl
    rw [done]
    simp only [Except.mapError, bind, Except.bind, checked]
    rfl
  · refine .inr ⟨refused, fault, ?_⟩
    rw [failed]
    rfl

end Manifest

namespace Document

/-- What becomes of a manifest of JSON with whole numbers and all required fields.
It is written as one tree between two gaps.  If YAML reads these, the manifest is
one document whose value is the folded one of the tree, and else it is refused.
So it is read as JSON exactly if YAML reads it and folding changes nothing, which
is so for plain trees of allowed characters without tabs around them. -/
theorem ofFile_json {file : SourceFile} (kind : file.kind = .json) {v : Json}
    (read : Json.ofChars? file.content.toList = .ok v)
    (complete : Manifest.missingFields v = []) :
    (∃ (before : Gap) (tree : Tree) (after : Gap),
      file.content.toList = before.chars ++ (tree.chars ++ after.chars)) ∧
    ∀ (before : Gap) (tree : Tree) (after : Gap),
      file.content.toList = before.chars ++ (tree.chars ++ after.chars) → tree.AllInts →
        tree.value = v ∧
        (ReadsInYaml before tree after →
          ofFile file = .ok [⟨file, tree.foldedValue, .kubernetes, some 0⟩]) ∧
        (¬ReadsInYaml before tree after →
          ∃ fault, ofFile file = .error (.manifest (.notYaml fault))) ∧
        (ofFile file = .ok [⟨file, v, .kubernetes, some 0⟩] ↔
          ReadsInYaml before tree after ∧ tree.foldedValue = v) ∧
        ((∀ c ∈ file.content.toList, Yaml.isAllowed c) → ¬Json.IsTabbed before after →
          tree.AllPlain → ofFile file = .ok [⟨file, v, .kubernetes, some 0⟩]) := by
  refine ⟨Json.exists_tree_of_ofChars? read, ?_⟩
  intro before tree after textEq ints
  have fitting : tree.value = v ∧ tree.depth < Json.nestingLimit := by
    rcases tree.ofChars?_chars before after with ⟨fits, done⟩ | ⟨-, place, failed⟩
    · rw [← textEq, read] at done
      exact ⟨(Except.ok.inj done).symm, fits⟩
    · rw [← textEq, read] at failed
      contradiction
  rcases fitting with ⟨rfl, fits⟩
  have outcome := Manifest.objects_tree ints (Nat.le_of_lt fits) textEq complete
  have isManifest : ofFile file = ofManifest file := by
    rw [ofFile, kind]
    rfl
  have accepts : ReadsInYaml before tree after →
      ofFile file = .ok [⟨file, tree.foldedValue, .kubernetes, some 0⟩] := by
    intro reads
    rcases outcome with ⟨-, done⟩ | ⟨refused, -⟩
    · rw [isManifest, ofManifest, done]
      rfl
    · exact absurd reads refused
  have refuses : ¬ReadsInYaml before tree after →
      ∃ fault, ofFile file = .error (.manifest (.notYaml fault)) := by
    intro refused
    rcases outcome with ⟨reads, -⟩ | ⟨-, fault, failed⟩
    · exact absurd reads refused
    · refine ⟨fault, ?_⟩
      rw [isManifest, ofManifest, failed]
      rfl
  have exactly : ofFile file = .ok [⟨file, tree.value, .kubernetes, some 0⟩] ↔
      ReadsInYaml before tree after ∧ tree.foldedValue = tree.value := by
    constructor
    · intro done
      by_cases reads : ReadsInYaml before tree after
      · rw [accepts reads] at done
        injection done with done
        injection done with done
        injection done with _ equal
        exact ⟨reads, equal⟩
      · rcases refuses reads with ⟨fault, failed⟩
        rw [failed] at done
        contradiction
    · rintro ⟨reads, equal⟩
      rw [← equal]
      exact accepts reads
  refine ⟨rfl, accepts, refuses, exactly, ?_⟩
  intro allowed untabbed plain
  rcases tree.readable_of_allPlain plain with ⟨readable, valueEq⟩
  exact exactly.mpr ⟨⟨textEq ▸ allowed, untabbed, readable⟩, valueEq⟩

/-- The characters of a text, written as themselves as far as they can be. -/
def plainGlyphs (text : String) : List Json.Glyph :=
  text.toList.filterMap fun c =>
    if h : c ≠ '"' ∧ c ≠ '\\' ∧ ¬c.toNat < 0x20 then some (.plain c h.1 h.2.1 h.2.2) else none

/-- A manifest of JSON with its required fields alone. -/
def manifestOf (kind : List Json.Glyph) : Tree :=
  .obj .empty
    (.cons .empty (plainGlyphs "apiVersion") .empty .empty (.str (plainGlyphs "v1")) .empty
      (.cons .empty (plainGlyphs "kind") .empty .empty (.str kind) .empty
        (.cons .empty (plainGlyphs "metadata") .empty .empty (.obj .empty .nil) .empty .nil)))

/-- A character written as a surrogate pair. -/
def surrogates : Json.Glyph :=
  .pair ⟨⟨'d', 13, rfl⟩, ⟨'8', 8, rfl⟩, ⟨'3', 3, rfl⟩, ⟨'d', 13, rfl⟩⟩
    ⟨⟨'d', 13, rfl⟩, ⟨'e', 14, rfl⟩, ⟨'0', 0, rfl⟩, ⟨'0', 0, rfl⟩⟩ (by decide) (by decide)

/-- The file of such a manifest. -/
def manifestFile (kind : List Json.Glyph) : SourceFile :=
  ⟨"m.json", .json, String.ofList (manifestOf kind).chars⟩

example : (manifestFile [surrogates]).content =
    "\x7b\"apiVersion\":\"v1\",\"kind\":\"\\ud83d\\ude00\",\"metadata\":\x7b\x7d\x7d" := by
  decide

/-- A plain kind is read as it is, and one with a surrogate pair is no YAML. -/
theorem ofFile_manifestFile :
    ofFile (manifestFile (plainGlyphs "Pod")) =
        .ok [⟨manifestFile (plainGlyphs "Pod"), (manifestOf (plainGlyphs "Pod")).value,
          .kubernetes, some 0⟩] ∧
      ∃ fault, ofFile (manifestFile [surrogates]) = .error (.manifest (.notYaml fault)) := by
  have textEq (kind : List Json.Glyph) : (manifestFile kind).content.toList =
      Gap.empty.chars ++ ((manifestOf kind).chars ++ Gap.empty.chars) := by
    rw [manifestFile, String.toList_ofList, Gap.empty, List.nil_append, List.append_nil]
  have ints (kind : List Json.Glyph) : (manifestOf kind).AllInts :=
    ⟨trivial, trivial, trivial, trivial⟩
  have complete (kind : List Json.Glyph) :
      Manifest.missingFields (manifestOf kind).value = [] := by
    rfl
  have read (kind : List Json.Glyph) :
      Json.ofChars? (manifestFile kind).content.toList = .ok (manifestOf kind).value := by
    rw [textEq]
    rcases (manifestOf kind).ofChars?_chars .empty .empty with ⟨-, done⟩ | ⟨deep, -⟩
    · exact done
    · exact absurd (show 128 ≤ 2 from deep) (by decide)
  constructor
  · have outcome := (ofFile_json rfl (read (plainGlyphs "Pod")) (complete _)).2 .empty _ .empty
      (textEq _) (ints _)
    refine outcome.2.2.2.2 (by decide) (by decide) ?_
    have plain (text : List Json.Glyph) (isPlain : Json.IsPlain text) : (Tree.str text).AllPlain :=
      isPlain
    exact ⟨by decide, plain _ (by decide), by decide, plain _ (by decide), by decide, trivial,
      trivial⟩
  · have outcome := (ofFile_json rfl (read [surrogates]) (complete _)).2 .empty _ .empty
      (textEq _) (ints _)
    have unfolded : (Yaml.folded false .none [surrogates]).isSome = false := rfl
    exact outcome.2.2.1 fun reads => absurd (unfolded.symm.trans reads.readable.2.2.2.1) (by decide)

end Document

end PolicyScan
