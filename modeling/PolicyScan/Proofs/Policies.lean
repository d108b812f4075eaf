import PolicyScan.Proofs.Engine
import PolicyScan.Proofs.Rego.Equal
import PolicyScan.Proofs.Rego.Evaluation

/-!
# Two policies

A policy against pods with privileged containers and one against buckets that are open to the
public.  Each looks at the members of one collection and writes the same record for all that
it objects to, so a document has one violation of it or none (`enforces_policies`), however
many of its members are to blame.
-/

namespace PolicyScan.Policies

open Rego

/-! ## Texts -/

/-- The text of lines. -/
def textOf (lines : List String) : String :=
  String.ofList (lines.flatMap fun line => line.toList ++ ['\n'])

/-- A policy against pods with privileged containers. -/
def privilegedSource : String :=
  textOf
    ["package rules",
      "",
      "import rego.v1",
      "",
      "deny contains violation if \x7b",
      "\tinput.kind == \"Pod\"",
      "\tsome container in input.spec.containers",
      "\tcontainer.securityContext.privileged == true",
      "\tviolation := \x7b",
      "\t\t\"id\": \"1\",",
      "\t\t\"publicId\": \"IAC-K8S-1\",",
      "\t\t\"type\": \"k8s\",",
      "\t\t\"subType\": input.kind,",
      "\t\t\"title\": data.policies.privileged.title,",
      "\t\t\"description\": \"\",",
      "\t\t\"severity\": data.policies.privileged.severity,",
      "\t\t\"msg\": \"spec.containers.securityContext.privileged\",",
      "\t\t\"policyEngineType\": \"opa\",",
      "\t\t\"issue\": \"Container is running in privileged mode\",",
      "\t\t\"impact\": \"Compromised container could potentially modify the underlying host's kernel\",",
      "\t\t\"resolve\": \"Remove \x60securityContext.privileged\x60 or set it to \x60false\x60\",",
      "\t\t\"references\": data.policies.privileged.references",
      "\t\x7d",
      "\x7d"]

/-- What it tells of its violations. -/
def privilegedMetadata : String :=
  textOf
    ["\x7b",
      "  \"policies\": \x7b",
      "    \"privileged\": \x7b",
      "      \"title\": \"Container is running in privileged mode\",",
      "      \"severity\": \"high\",",
      "      \"references\": [",
      "        \"https://kubernetes.io/docs/concepts/policy/pod-security-policy/#privileged\"",
      "      ]",
      "    \x7d",
      "  \x7d",
      "\x7d"]

/-- A policy against buckets that are open to the public. -/
def publicBucketSource : String :=
  textOf
    ["package rules",
      "",
      "import rego.v1",
      "",
      "deny contains violation if \x7b",
      "\tbucket := input.resource.aws_s3_bucket[_]",
      "\tbucket.acl == \"public-read\"",
      "\tviolation := \x7b",
      "\t\t\"id\": \"2\",",
      "\t\t\"publicId\": \"IAC-TF-1\",",
      "\t\t\"type\": \"terraform\",",
      "\t\t\"subType\": \"S3\",",
      "\t\t\"title\": data.policies.public_bucket.title,",
      "\t\t\"description\": \"\",",
      "\t\t\"severity\": data.policies.public_bucket.severity,",
      "\t\t\"msg\": \"resource.aws_s3_bucket.acl\",",
      "\t\t\"policyEngineType\": \"opa\",",
      "\t\t\"issue\": \"Bucket ACL allows public read access\",",
      "\t\t\"impact\": \"Anyone can list and download objects in the bucket\",",
      "\t\t\"resolve\": \"Set \x60acl\x60 to \x60private\x60\",",
      "\t\t\"references\": []",
      "\t\x7d",
      "\x7d"]

/-- What it tells of its violations. -/
def publicBucketMetadata : String :=
  textOf
    ["\x7b",
      "  \"policies\": \x7b",
      "    \"public_bucket\": \x7b",
      "      \"title\": \"S3 bucket is publicly readable\",",
      "      \"severity\": \"medium\"",
      "    \x7d",
      "  \x7d",
      "\x7d"]

/-! ## Modules -/

/-- What a policy says of each of its violations. -/
structure Wording where
  id : String
  publicId : String
  type : String
  msg : String
  issue : String
  impact : String
  resolve : String

/-- The expression of a violation.  The metadata have an entry for the policy. -/
def Wording.expr (words : Wording) (policy : String) (subType references : Expr) : Expr :=
  .obj (List.map (fun (key, e) => (.const (.str key), e))
    [("id", .const (.str words.id)),
      ("publicId", .const (.str words.publicId)),
      ("type", .const (.str words.type)),
      ("subType", subType),
      ("title", pathExpr ["data", "policies", policy, "title"]),
      ("description", .const (.str "")),
      ("severity", pathExpr ["data", "policies", policy, "severity"]),
      ("msg", .const (.str words.msg)),
      ("policyEngineType", .const (.str "opa")),
      ("issue", .const (.str words.issue)),
      ("impact", .const (.str words.impact)),
      ("resolve", .const (.str words.resolve)),
      ("references", references)])

/-- A module that puts what a query finds into a set. -/
def denyModule (query : Query) : Rego.Module :=
  ⟨["rules"], [memberRule ["rules", "deny"] "violation" query], []⟩

/-- How privileged containers are reported. -/
def privilegedWording : Wording where
  id := "1"
  publicId := "IAC-K8S-1"
  type := "k8s"
  msg := "spec.containers.securityContext.privileged"
  issue := "Container is running in privileged mode"
  impact := "Compromised container could potentially modify the underlying host's kernel"
  resolve := "Remove \x60securityContext.privileged\x60 or set it to \x60false\x60"

/-- Where privileged containers are found. -/
def privilegedQuery : Query :=
  [.test (.binary .equal (pathExpr ["input", "kind"]) (.const (.str "Pod"))),
    .member none (.var "container") (pathExpr ["input", "spec", "containers"]),
    .test (.binary .equal (pathExpr ["container", "securityContext", "privileged"])
      (.const (.bool true))),
    .assign (.var "violation")
      (privilegedWording.expr "privileged" (pathExpr ["input", "kind"])
        (pathExpr ["data", "policies", "privileged", "references"]))]

/-- How public buckets are reported. -/
def publicBucketWording : Wording where
  id := "2"
  publicId := "IAC-TF-1"
  type := "terraform"
  msg := "resource.aws_s3_bucket.acl"
  issue := "Bucket ACL allows public read access"
  impact := "Anyone can list and download objects in the bucket"
  resolve := "Set \x60acl\x60 to \x60private\x60"

/-- Where public buckets are found.  The name of a bucket does not matter and has a name of
its own. -/
def publicBucketQuery : Query :=
  [.assign (.var "bucket")
      (.index (pathExpr ["input", "resource", "aws_s3_bucket"]) (.var "$75")),
    .test (.binary .equal (pathExpr ["bucket", "acl"]) (.const (.str "public-read"))),
    .assign (.var "violation")
      (publicBucketWording.expr "public_bucket" (.const (.str "S3")) (.arr []))]

-- The lines are literals, whose characters are at hand; to decode them takes longer than to
-- read the module.
theorem ofText_privilegedSource :
    Module.ofText privilegedSource = .ok (denyModule privilegedQuery) := by
  apply Module.ofText_eq
  rw [privilegedSource, textOf, Module.ofText, lexemes_ofList]
  simp only [List.flatMap_cons, List.flatMap_nil]
  repeat rw [String.toList_ofList]
  decide +kernel

theorem ofText_publicBucketSource :
    Module.ofText publicBucketSource = .ok (denyModule publicBucketQuery) := by
  apply Module.ofText_eq
  rw [publicBucketSource, textOf, Module.ofText, lexemes_ofList]
  simp only [List.flatMap_cons, List.flatMap_nil]
  repeat rw [String.toList_ofList]
  decide +kernel

/-! ## Metadata -/

/-- Where privileged containers are written about. -/
def privilegedReferences : List String :=
  ["https://kubernetes.io/docs/concepts/policy/pod-security-policy/#privileged"]

/-- The fields of the metadata about privileged containers. -/
def privilegedData : List (String × Json) :=
  [("policies", .obj [("privileged", .obj [
    ("references", .arr (privilegedReferences.map .str)),
    ("severity", .str "high"),
    ("title", .str "Container is running in privileged mode")])])]

/-- The fields of the metadata about public buckets. -/
def publicBucketData : List (String × Json) :=
  [("policies", .obj [("public_bucket", .obj [
    ("severity", .str "medium"),
    ("title", .str "S3 bucket is publicly readable")])])]

theorem parse_ofList (text : List Char) :
    Json.parse (String.ofList text) = (Json.ofChars? text).mapError (·.report text) := by
  rw [Json.parse, String.toList_ofList]

set_option maxRecDepth 2000 in
theorem metadataOf_privilegedMetadata :
    Engine.metadataOf privilegedMetadata = .ok (.obj privilegedData) := by
  rw [privilegedMetadata, textOf, Engine.metadataOf, parse_ofList]
  simp only [List.flatMap_cons, List.flatMap_nil]
  repeat rw [String.toList_ofList]
  cbv

theorem metadataOf_publicBucketMetadata :
    Engine.metadataOf publicBucketMetadata = .ok (.obj publicBucketData) := by
  rw [publicBucketMetadata, textOf, Engine.metadataOf, parse_ofList]
  simp only [List.flatMap_cons, List.flatMap_nil]
  repeat rw [String.toList_ofList]
  cbv

/-! ## Records -/

/-- The value of a violation. -/
def Wording.value (words : Wording) (subType title severity references : Value) : Value :=
  .ofFields
    [(.str "id", .str words.id),
      (.str "publicId", .str words.publicId),
      (.str "type", .str words.type),
      (.str "subType", subType),
      (.str "title", title),
      (.str "description", .str ""),
      (.str "severity", severity),
      (.str "msg", .str words.msg),
      (.str "policyEngineType", .str "opa"),
      (.str "issue", .str words.issue),
      (.str "impact", .str words.impact),
      (.str "resolve", .str words.resolve),
      (.str "references", references)]

theorem Wording.yields_expr {w : World} {env : Env} {policy : String} {subType references : Expr}
    {v title severity list : Value} (words : Wording) (subTypeYields : subType.Yields w env (some v))
    (titleYields :
      (pathExpr ["data", "policies", policy, "title"]).Yields w env (some title))
    (severityYields :
      (pathExpr ["data", "policies", policy, "severity"]).Yields w env (some severity))
    (referencesYields : references.Yields w env (some list)) :
    (words.expr policy subType references).Yields w env
      (some (words.value v title severity list)) := by
  have constant (text : String) : (Expr.const (.str text)).Yields w env (some (.str text)) :=
    Expr.yields_const _
  refine Expr.yields_obj (List.forall₂_map_left_iff.mpr ?_)
  exact .cons ⟨rfl, constant _⟩ <| .cons ⟨rfl, constant _⟩ <| .cons ⟨rfl, constant _⟩ <|
    .cons ⟨rfl, subTypeYields⟩ <| .cons ⟨rfl, titleYields⟩ <| .cons ⟨rfl, constant _⟩ <|
    .cons ⟨rfl, severityYields⟩ <| .cons ⟨rfl, constant _⟩ <| .cons ⟨rfl, constant _⟩ <|
    .cons ⟨rfl, constant _⟩ <| .cons ⟨rfl, constant _⟩ <| .cons ⟨rfl, constant _⟩ <|
    .cons ⟨rfl, referencesYields⟩ .nil

section Queries

variable {query : Query} {fields : List (String × Json)} {input : Json}

/-- What the conditions of a policy refer to. -/
def worldOf (query : Query) (fields : List (String × Json)) (input : Json) : World :=
  (denyModule query).worldWithin (.obj (Value.ofJsonFields fields)) (.ofJson input) 0

theorem paths_denyModule : (denyModule query).paths = [["rules", "deny"]] := rfl

theorem input_worldOf : (worldOf query fields input).input = .ofJson input :=
  Module.input_worldWithin _ _ 0

theorem isRule_worldOf {name : String} (different : name ≠ "deny") :
    (worldOf query fields input).isRule name = false := by
  rw [worldOf, Module.isRule_worldWithin, Module.isRule, paths_denyModule]
  simp [denyModule, List.isPrefixOf, different]

/-- The input is no variable and no rule. -/
theorem yields_input {env : Env} (unbound : env.lookup "input" = none) (keys : List String) :
    (pathExpr ("input" :: keys)).Yields (worldOf query fields input) env
      ((Value.ofJson input).path? keys) := by
  have inputEq : (worldOf query fields input).input = .ofJson input := input_worldOf
  rw [← inputEq]
  exact Expr.yields_input_below unbound (isRule_worldOf (by decide)) keys

/-- What the metadata have to say about a policy. -/
theorem yields_metadata {env : Env} {policy key : String} {v : Json}
    (canonical : (Json.obj fields).Canonical) (unbound : env.lookup "data" = none)
    (stands : (Json.obj fields).path? ["policies", policy, key] = some v) :
    (pathExpr ["data", "policies", policy, key]).Yields (worldOf query fields input) env
      (some (.ofJson v)) := by
  refine Expr.yields_data unbound ["policies", policy] key ?_
  rw [worldOf, Module.data_worldWithin_of_unrelated, ← Value.ofJson_obj canonical,
    List.cons_append, List.cons_append, List.nil_append, Value.path?_ofJson canonical, stands,
    Option.map_some]
  rw [paths_denyModule]
  simp [List.isPrefixOf]

theorem yields_metadata_text {env : Env} {policy key text : String}
    (canonical : (Json.obj fields).Canonical) (unbound : env.lookup "data" = none)
    (stands : (Json.obj fields).path? ["policies", policy, key] = some (.str text)) :
    (pathExpr ["data", "policies", policy, key]).Yields (worldOf query fields input) env
      (some (.str text)) := by
  have yields : (pathExpr ["data", "policies", policy, key]).Yields (worldOf query fields input)
      env (some (.ofJson (.str text))) := yields_metadata canonical unbound stands
  rwa [Value.ofJson] at yields

end Queries

/-- An engine that gives the set of what a query finds. -/
def engineOf (domain : Domain) (query : Query) (fields : List (String × Json)) : Engine :=
  ⟨domain, denyModule query, .ofJson (.obj fields), Engine.defaultEntrypoint⟩

/-- If a query finds nothing but one record, there is one violation or none. -/
theorem evaluate_engineOf {domain : Domain} {query : Query} {fields : List (String × Json)}
    {d input : Json} {v : Value} {violation : Violation} {condition : Prop}
    (canonical : (Json.obj fields).Canonical) (lacks : fields.lookup "rules" = none)
    (checked : (denyModule query).check = .ok ()) (same : v.cmp v = .eq)
    (reads : v.Reads violation) (accepted : Engine.inputOf d = .ok input)
    (finds : Finds (worldOf query fields input) query [] "violation" v condition) :
    (condition → (engineOf domain query fields).evaluate d = .ok [violation]) ∧
      (¬condition → (engineOf domain query fields).evaluate d = .ok []) := by
  have noRules : Value.lookup (.str "rules") (Value.ofJsonFields fields) = none := by
    rw [Value.lookup_ofJsonFields, lacks, Option.map_none]
  obtain ⟨members, found, one, none⟩ :=
    Module.evaluate_of_finds rfl rfl checked noRules same finds
  have evaluated {list : List Violation} (listed : List.Forall₂ Value.Reads members list) :
      (engineOf domain query fields).evaluate d = .ok list := by
    rw [Engine.evaluate_eq, accepted]
    change Engine.answer _ input = _
    rw [Engine.answer_eq, engineOf, Value.ofJson_obj canonical]
    change Engine.answerTo _ ((denyModule query).evaluate _ _ (pathText ["rules", "deny"])) = _
    rw [found]
    exact Engine.violationsOf_eq_ok_iff.mpr ⟨members, rfl, listed⟩
  constructor
  · intro holds
    apply evaluated
    rw [one holds]
    exact .cons reads .nil
  · intro fails
    apply evaluated
    rw [none fails]
    exact .nil

/-! ## What is objected to -/

/-- A policy as it is deployed, with what it objects to. -/
structure Policy where
  domain : Domain
  /-- The name of its entry in the metadata. -/
  name : String
  source : String
  metadata : String
  /-- Where a document has the members that are looked at. -/
  place : List String
  Forbids : Json → Prop
  violation : Violation

/-- Pods must not have privileged containers. -/
def privileged : Policy where
  domain := .kubernetes
  name := "privileged"
  source := privilegedSource
  metadata := privilegedMetadata
  place := ["spec", "containers"]
  Forbids d := d.path? ["kind"] = some (.str "Pod") ∧
    ∃ container ∈ d.membersAt ["spec", "containers"],
      container.path? ["securityContext", "privileged"] = some (.bool true)
  violation :=
    { id := "1"
      publicId := "IAC-K8S-1"
      type := "k8s"
      subType := "Pod"
      title := "Container is running in privileged mode"
      severity := .high
      msg := "spec.containers.securityContext.privileged"
      issue := "Container is running in privileged mode"
      impact := "Compromised container could potentially modify the underlying host's kernel"
      resolve := "Remove \x60securityContext.privileged\x60 or set it to \x60false\x60"
      references := privilegedReferences }

/-- Buckets must not be open to the public. -/
def publicBucket : Policy where
  domain := .terraform
  name := "public_bucket"
  source := publicBucketSource
  metadata := publicBucketMetadata
  place := ["resource", "aws_s3_bucket"]
  Forbids d := ∃ bucket ∈ d.membersAt ["resource", "aws_s3_bucket"],
    bucket.path? ["acl"] = some (.str "public-read")
  violation :=
    { id := "2"
      publicId := "IAC-TF-1"
      type := "terraform"
      subType := "S3"
      title := "S3 bucket is publicly readable"
      severity := .medium
      msg := "resource.aws_s3_bucket.acl"
      issue := "Bucket ACL allows public read access"
      impact := "Anyone can list and download objects in the bucket"
      resolve := "Set \x60acl\x60 to \x60private\x60" }

/-- Numbers do not matter for the policies. -/
theorem forbids_congr_privileged {d input : Json} (same : input.outline = d.outline) :
    privileged.Forbids input ↔ privileged.Forbids d := by
  have stable (d : Json) : privileged.Forbids d.outline ↔ privileged.Forbids d := by
    refine and_congr (Json.path?_outline_eq_some_iff fun u => Json.outline_eq_str_iff) ?_
    rw [Json.membersAt_outline]
    simp only [List.mem_map, exists_exists_and_eq_and,
      Json.path?_outline_eq_some_iff fun u => Json.outline_eq_bool_iff]
  rw [← stable input, same, stable d]

theorem forbids_congr_publicBucket {d input : Json} (same : input.outline = d.outline) :
    publicBucket.Forbids input ↔ publicBucket.Forbids d := by
  have stable (d : Json) : publicBucket.Forbids d.outline ↔ publicBucket.Forbids d := by
    simp only [publicBucket, Json.membersAt_outline, List.mem_map, exists_exists_and_eq_and,
      Json.path?_outline_eq_some_iff fun u => Json.outline_eq_str_iff]
  rw [← stable input, same, stable d]

section Found

variable {input : Json}

/-- The record of privileged containers. -/
def privilegedValue : Value :=
  privilegedWording.value (.str "Pod") (.str "Container is running in privileged mode")
    (.str "high") (.ofJson (.arr (privilegedReferences.map .str)))

theorem canonical_privilegedData : (Json.obj privilegedData).Canonical := by
  simp only [privilegedData, privilegedReferences, Json.Canonical, Json.CanonicalItems, Json.CanonicalFields,
    List.map_cons, List.map_nil]
  decide

theorem finds_privileged (canonical : input.Canonical)
    (isCollection : input.IsCollectionAt privileged.place) :
    Finds (worldOf privilegedQuery privilegedData input) privilegedQuery [] "violation"
      privilegedValue (privileged.Forbids input) := by
  obtain ⟨entries, stands, same⟩ := Value.exists_entries canonical isCollection
  have isPod : (Value.ofJson input).path? ["kind"] = some (.str "Pod") ↔
      input.path? ["kind"] = some (.str "Pod") :=
    Value.path?_ofJson_eq_some_iff canonical fun _ => Value.ofJson_eq_str_iff
  have hasPrivileged :
      (∃ entry ∈ entries, entry.2.path? ["securityContext", "privileged"] = some (.bool true)) ↔
        ∃ container ∈ input.membersAt ["spec", "containers"],
          container.path? ["securityContext", "privileged"] = some (.bool true) :=
    Value.exists_entry_iff same (Json.canonical_of_mem_membersAt canonical)
      fun _ => Value.ofJson_eq_bool_iff
  refine Finds.congr ?_ (and_congr isPod hasPrivileged)
  refine .test (fun _ => Value.same_str_iff) (yields_input rfl ["kind"]) fun kindEq => ?_
  refine .each (Literal.solve_member_entries (yields_input rfl ["spec", "containers"]) stands)
    fun entry _ => ?_
  refine (Finds.test (fun _ => Value.same_bool_iff)
    (Expr.yields_var_below rfl ["securityContext", "privileged"]) fun _ => ?_).congr
    (and_iff_left trivial)
  have subType : (pathExpr ["input", "kind"]).Yields
      (worldOf privilegedQuery privilegedData input)
      ((Env.declare [] ["container"]).bind "container" entry.2) (some (.str "Pod")) := by
    rw [← kindEq]
    exact yields_input rfl ["kind"]
  exact .assign (Wording.yields_expr privilegedWording subType
    (yields_metadata_text canonical_privilegedData rfl rfl)
    (yields_metadata_text canonical_privilegedData rfl rfl)
    (yields_metadata canonical_privilegedData rfl rfl))

/-- The record of public buckets. -/
def publicBucketValue : Value :=
  publicBucketWording.value (.str "S3") (.str "S3 bucket is publicly readable") (.str "medium")
    (.arr [])

theorem canonical_publicBucketData : (Json.obj publicBucketData).Canonical := by
  simp only [publicBucketData, Json.Canonical, Json.CanonicalFields, List.map_cons, List.map_nil]
  decide

theorem finds_publicBucket (canonical : input.Canonical)
    (isCollection : input.IsCollectionAt publicBucket.place) :
    Finds (worldOf publicBucketQuery publicBucketData input) publicBucketQuery [] "violation"
      publicBucketValue (publicBucket.Forbids input) := by
  obtain ⟨entries, stands, same⟩ := Value.exists_entries canonical isCollection
  have isPublic :
      (∃ entry ∈ entries, entry.2.path? ["acl"] = some (.str "public-read")) ↔
        ∃ bucket ∈ input.membersAt ["resource", "aws_s3_bucket"],
          bucket.path? ["acl"] = some (.str "public-read") :=
    Value.exists_entry_iff same (Json.canonical_of_mem_membersAt canonical)
      fun _ => Value.ofJson_eq_str_iff
  refine Finds.congr ?_ isPublic
  have isOpen : (worldOf publicBucketQuery publicBucketData input).isOpen [] "$75" := by
    simp only [World.isOpen, World.pathOf?, List.lookup_nil, Option.isSome_none,
      isRule_worldOf (show "$75" ≠ "deny" by decide)]
    rfl
  refine .each (Literal.solve_assign_entries (yields_input rfl ["resource", "aws_s3_bucket"]) stands
    isOpen) fun entry _ => ?_
  refine (Finds.test (fun _ => Value.same_str_iff)
    (Expr.yields_var_below rfl ["acl"]) fun _ => ?_).congr (and_iff_left trivial)
  have noReferences : (Expr.arr []).Yields (worldOf publicBucketQuery publicBucketData input)
      (((Env.bind [] "$75" entry.1).declare ["bucket"]).bind "bucket" entry.2)
      (some (.arr [])) := rfl
  exact .assign (Wording.yields_expr publicBucketWording (Expr.yields_const _)
    (yields_metadata_text canonical_publicBucketData rfl rfl)
    (yields_metadata_text canonical_publicBucketData rfl rfl) noReferences)

end Found

/-! ## What is answered -/

/-- A document that an engine reads comes to it apart from its numbers. -/
theorem outline_of_inputOf {d input : Json} (canonical : d.Canonical)
    (accepted : Engine.inputOf d = .ok input) :
    input.outline = d.outline ∧ input.Canonical := by
  have parsed := mapError_eq_ok_iff.mp accepted
  have read := mapError_eq_ok_iff.mp parsed
  rw [Json.compact, String.toList_ofList] at read
  have same := Json.outline_of_ofChars? canonical read
  exact ⟨same, (Json.canonical_outline_iff input).mp
    (same ▸ (Json.canonical_outline_iff d).mpr canonical)⟩

/-- How a policy treats a document. -/
structure Policy.Enforces (p : Policy) (d : Json) : Prop where
  /-- The title and the references of its violations are those of the metadata. -/
  told : ∃ metadata, Engine.metadataOf p.metadata = .ok metadata ∧
    metadata.path? ["policies", p.name, "title"] = some (.str p.violation.title) ∧
    metadata.membersAt ["policies", p.name, "references"] = p.violation.references.map .str
  /-- There is one violation if the document is forbidden, and none otherwise. -/
  evaluated : ∃ engine,
    Engine.build p.domain p.source p.metadata Engine.defaultEntrypoint = .ok engine ∧
      (d.IsCollectionAt p.place →
        (p.Forbids d → engine.evaluate d = .ok [p.violation]) ∧
        (¬p.Forbids d → engine.evaluate d = .ok []))

section

variable {d input : Json} (canonical : d.Canonical) (accepted : Engine.inputOf d = .ok input)

include canonical accepted

theorem enforces_privileged : privileged.Enforces d where
  told := ⟨_, metadataOf_privilegedMetadata, rfl, rfl⟩
  evaluated := by
    obtain ⟨same, inputCanonical⟩ := outline_of_inputOf canonical accepted
    refine ⟨engineOf .kubernetes privilegedQuery privilegedData, ?_, fun isCollection => ?_⟩
    · simp only [privileged, Engine.build, ofText_privilegedSource, metadataOf_privilegedMetadata]
      rfl
    · have isCollection : input.IsCollectionAt privileged.place := by
        rwa [← Json.isCollectionAt_outline_iff, same, Json.isCollectionAt_outline_iff]
      have reads : privilegedValue.Reads privileged.violation := by
        rw [← Value.violation?_eq_some_iff]
        decide +kernel
      exact evaluate_engineOf canonical_privilegedData rfl (by decide +kernel) (by decide +kernel)
        reads accepted
        ((finds_privileged inputCanonical isCollection).congr (forbids_congr_privileged same))

theorem enforces_publicBucket : publicBucket.Enforces d where
  told := ⟨_, metadataOf_publicBucketMetadata, rfl, rfl⟩
  evaluated := by
    obtain ⟨same, inputCanonical⟩ := outline_of_inputOf canonical accepted
    refine ⟨engineOf .terraform publicBucketQuery publicBucketData, ?_, fun isCollection => ?_⟩
    · simp only [publicBucket, Engine.build, ofText_publicBucketSource,
        metadataOf_publicBucketMetadata]
      rfl
    · have isCollection : input.IsCollectionAt publicBucket.place := by
        rwa [← Json.isCollectionAt_outline_iff, same, Json.isCollectionAt_outline_iff]
      have reads : publicBucketValue.Reads publicBucket.violation := by
        rw [← Value.violation?_eq_some_iff]
        decide +kernel
      exact evaluate_engineOf canonical_publicBucketData rfl (by decide +kernel) (by decide +kernel)
        reads accepted
        ((finds_publicBucket inputCanonical isCollection).congr (forbids_congr_publicBucket same))

/-- Every document that can be read is treated as both policies want it. -/
theorem enforces_policies : privileged.Enforces d ∧ publicBucket.Enforces d :=
  ⟨enforces_privileged canonical accepted, enforces_publicBucket canonical accepted⟩

end

/-- A pod with two privileged containers, among buckets. -/
def crowded : Json :=
  .obj [("kind", .str "Pod"),
    ("resource", .obj [("aws_s3_bucket", .obj [("logs", .obj [("acl", .str "private")]),
      ("site", .obj [("acl", .str "public-read")])])]),
    ("spec", .obj [("containers", .arr [
      .obj [("securityContext", .obj [("privileged", .bool true)])], .null,
      .obj [("securityContext", .obj [("privileged", .bool true)])]])])]

/-- There is one violation, however many containers are to blame. -/
theorem enforces_policies_crowded :
    Engine.inputOf crowded = .ok crowded ∧
      (∃ engine, Engine.build .kubernetes privilegedSource privilegedMetadata
          Engine.defaultEntrypoint = .ok engine ∧
        engine.evaluate crowded = .ok [privileged.violation]) ∧
      ∃ engine, Engine.build .terraform publicBucketSource publicBucketMetadata
          Engine.defaultEntrypoint = .ok engine ∧
        engine.evaluate crowded = .ok [publicBucket.violation] := by
  have canonical : crowded.Canonical := by
    simp only [crowded, Json.Canonical, Json.CanonicalItems, Json.CanonicalFields, List.map_cons,
      List.map_nil]
    decide
  have accepted : Engine.inputOf crowded = .ok crowded := by
    have ints : crowded.AllInts := by
      simp [crowded, Json.AllInts, Json.AllIntsItems, Json.AllIntsFields]
    have shallow : ¬Json.nestingLimit ≤ crowded.depth := by decide
    exact ((Engine.inputOf_cases ints canonical).resolve_right fun deep => shallow deep.1).2
  obtain ⟨⟨-, engine, built, evaluated⟩, -, other, otherBuilt, otherEvaluated⟩ :=
    enforces_policies canonical accepted
  refine ⟨accepted, ⟨engine, built, (evaluated ?_).1 ?_⟩, other, otherBuilt,
    (otherEvaluated ?_).1 ?_⟩
  · rintro _ ⟨⟩
    rfl
  · exact ⟨rfl, _, List.mem_cons_self, rfl⟩
  · rintro _ ⟨⟩
    rfl
  · exact ⟨_, List.mem_cons_of_mem _ List.mem_cons_self, rfl⟩

end PolicyScan.Policies
