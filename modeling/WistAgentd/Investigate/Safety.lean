/- # Investigate.Safety -- redacting a report and scanning it

`investigate_safety.rs`: `sanitize_value` replaces what the rules of the policy match, `scan` lists
what is wrong with a report. The two walks agree on values and disagree on keys: a forbidden key
stays in its place with its value replaced, and the scan reports it there as before.

* `walkSanitize`, `scanValues`: the two walks; `scan`: with the checks of the report's structure.
* `walkSanitize_again`: redacting twice changes nothing more.
* `scanValues_sanitized`: what the scan still finds are the forbidden keys.
* `Alike`, `walkSanitize_alike`: values that differ only in what is replaced give one result. -/
import WistAgentd.Investigate.Policy

namespace WistAgentd.Investigate
open List Option
open Theory.Matching (Pattern)
set_option autoImplicit false

/-- `serde_json::Value`; the fields of an object in the order of the map. -/
inductive Json
  | null
  | bool (value : Bool)
  | number (literal : String)
  | string (text : String)
  | array (items : List Json)
  | object (fields : List (String × Json))

structure Violation where
  path : String
  rule : String
  reason : String
  deriving DecidableEq

/-! ## Redaction -/

mutual

/-- `walk_sanitize`: the value it leaves, and how many places it replaced. -/
def walkSanitize (policy : Policy) : Json → Json × Nat
  | .string text => match policy.valueRule text with
    | some rule => (.string (redacted rule), 1)
    | none => (.string text, 0)
  | .array items =>
    (.array (walkSanitizeItems policy items).1, (walkSanitizeItems policy items).2)
  | .object fields =>
    (.object (walkSanitizeFields policy fields).1, (walkSanitizeFields policy fields).2)
  | .null => (.null, 0)
  | .bool value => (.bool value, 0)
  | .number literal => (.number literal, 0)

def walkSanitizeItems (policy : Policy) : List Json → List Json × Nat
  | [] => ([], 0)
  | item :: rest =>
    ((walkSanitize policy item).1 :: (walkSanitizeItems policy rest).1,
      (walkSanitize policy item).2 + (walkSanitizeItems policy rest).2)

def walkSanitizeFields (policy : Policy) : List (String × Json) → List (String × Json) × Nat
  | [] => ([], 0)
  | (key, child) :: rest =>
    let done := match policy.keyRule key with
      | some rule => (Json.string (redacted rule), 1)
      | none => walkSanitize policy child
    ((key, done.1) :: (walkSanitizeFields policy rest).1,
      done.2 + (walkSanitizeFields policy rest).2)

end

variable (isMatch : Pattern → String → Bool)

/-- `sanitize_value`, with the embedded policy. -/
def sanitizeValue (value : Json) : Json × Nat :=
  walkSanitize (policy isMatch) value

/-! ## The scan -/

mutual

def scanValues (policy : Policy) (path : String) : Json → List Violation
  | .string text => match policy.valueRule text with
    | some rule => [⟨path, rule.id, rule.reason⟩]
    | none => []
  | .array items => scanItems policy path 0 items
  | .object fields => scanFields policy path fields
  | .null | .bool _ | .number _ => []

def scanItems (policy : Policy) (path : String) (index : Nat) : List Json → List Violation
  | [] => []
  | item :: rest =>
    scanValues policy (path ++ "[" ++ toString index ++ "]") item ++
      scanItems policy path (index + 1) rest

def scanFields (policy : Policy) (path : String) : List (String × Json) → List Violation
  | [] => []
  | (key, child) :: rest =>
    (match policy.keyRule key with
      | some rule => [⟨path ++ "." ++ key, rule.id, rule.reason⟩]
      | none => []) ++
      scanValues policy (path ++ "." ++ key) child ++ scanFields policy path rest

end

variable (fields : List (String × Json))

/-- `Map::get`. -/
def lookup (key : String) : Option Json :=
  (fields.find? fun field => field.1 = key).map Prod.snd

def Json.asStr : Json → Option String
  | .string text => some text
  | _ => none

def Json.asArray : Json → Option (List Json)
  | .array items => some items
  | _ => none

def Json.asObject : Json → Option (List (String × Json))
  | .object fields => some fields
  | _ => none

def checkKeys (allowed : List String) (path : String) :
    List Violation :=
  fields.filterMap fun field =>
    if field.1 ∈ allowed then none
    else some ⟨path ++ "." ++ field.1, "schema.unknown_key",
      "字段 `" ++ field.1 ++ "` 不在白名单（允许：" ++ ", ".intercalate allowed ++ "）"⟩

def missingKeys (report : List (String × Json)) : List Violation :=
  ["topic", "report_schema", "findings"].filterMap fun key =>
    if (lookup report key).isSome then none
    else some ⟨"$." ++ key, "shape.missing_key", "缺少必需字段 `" ++ key ++ "`"⟩

def checkReportSchema (policy : Policy) (report : List (String × Json)) : List Violation :=
  match (lookup report "report_schema").bind Json.asStr with
  | none => []
  | some schema =>
    if !policy.envelope.reportSchema schema then
      [⟨"$.report_schema", "schema.report_schema",
        "`" ++ schema ++ "` 不符合 `wist.investigation.<topic>/v<N>`"⟩]
    else if !((policy.schemaPrefix ++ ".").toList.isPrefixOf schema.toList) then
      [⟨"$.report_schema", "schema.prefix",
        "`" ++ schema ++ "` 不以 `" ++ policy.schemaPrefix ++ "` 开头"⟩]
    else []

def reportTopic (report : List (String × Json)) : String :=
  ((lookup report "topic").bind Json.asStr).getD ""

def topicPrefixes (policy : Policy) (report : List (String × Json)) : Option (List String) :=
  (policy.topics.find? fun topic => topic.1 = reportTopic report).map Prod.snd

def checkTopic (policy : Policy) (report : List (String × Json)) : List Violation :=
  if (topicPrefixes policy report).isNone then
    [⟨"$.topic", "schema.unknown_topic",
      "题目 `" ++ reportTopic report ++ "` 未在脱敏策略登记（新增题目必须登记 id 前缀）"⟩]
  else []

/-- The prefixes as `Debug` prints them. -/
def debugPrefixes (prefixes : List String) : String :=
  "Some([" ++ ", ".intercalate (prefixes.map fun text => "\"" ++ text ++ "\"") ++ "])"

section

variable (policy : Policy)

def checkFindingId (report finding : List (String × Json)) (path : String) :
    List Violation :=
  match (lookup finding "id").bind Json.asStr, topicPrefixes policy report with
  | some id, some prefixes =>
    if prefixes.any fun text => text.toList.isPrefixOf id.toList then []
    else [⟨path ++ ".id", "schema.id_prefix",
      "`" ++ id ++ "` 不属于题目 `" ++ reportTopic report ++ "` 允许的前缀 " ++ debugPrefixes prefixes⟩]
  | _, _ => []

def checkRow (path : String) (index : Nat) (row : Json) : List Violation :=
  let rowPath := path ++ ".rows[" ++ toString index ++ "]"
  match row.asObject with
  | some fields => checkKeys fields policy.envelope.rowKeys rowPath
  | none => [⟨rowPath, "shape.row_not_object", "rows 的元素必须是对象"⟩]

def checkFinding (report : List (String × Json)) (index : Nat) (finding : Json) :
    List Violation :=
  let path := "$.findings[" ++ toString index ++ "]"
  match finding.asObject with
  | none => [⟨path, "shape.finding_not_object", "findings 的元素必须是对象"⟩]
  | some fields =>
    checkKeys fields policy.envelope.findingKeys path ++
      checkFindingId policy report fields path ++
      (((lookup fields "rows").bind Json.asArray).getD []).zipIdx.flatMap fun row =>
        checkRow policy path row.2 row.1

def checkFindings (report : List (String × Json)) : List Violation :=
  match lookup report "findings" with
  | none => []
  | some findings => match findings.asArray with
    | some items => items.zipIdx.flatMap fun finding =>
      checkFinding policy report finding.2 finding.1
    | none => [⟨"$.findings", "shape.findings_not_array", "findings 必须是数组"⟩]

def checkSummary (report : List (String × Json)) : List Violation :=
  match (lookup report "summary").bind Json.asObject with
  | some summary => checkKeys summary policy.envelope.summaryKeys "$.summary"
  | none => []

/-- The checks of `scan` before the values are walked. -/
def checkStructure (report : List (String × Json)) : List Violation :=
  checkKeys report policy.envelope.topKeys "$" ++ missingKeys report ++
    checkReportSchema policy report ++ checkTopic policy report ++ checkFindings policy report ++
    checkSummary policy report

def scanWith (value : Json) : List Violation :=
  match value.asObject with
  | none => [⟨"$", "shape.not_object", "报告顶层必须是 JSON 对象"⟩]
  | some report => checkStructure policy report ++ scanValues policy "$" value

end

/-- `scan`, with the embedded policy. -/
def scan (value : Json) : List Violation := scanWith (policy isMatch) value

/-! ## Redacting twice -/

section Walks

variable {policy : Policy}

theorem valueRule_redacted_value (clean : policy.ReplacementsClean)
    {text : String} {rule : Rule} (found : policy.valueRule text = some rule) :
    policy.valueRule (redacted rule) = none :=
  clean rule (mem_append_left _ (mem_of_find?_eq_some found))

mutual

/-- A redacted value is redacted to itself. -/
theorem walkSanitize_again (clean : policy.ReplacementsClean) : ∀ value : Json,
    (walkSanitize policy (walkSanitize policy value).1).1 = (walkSanitize policy value).1
  | .string text => by
      cases found : policy.valueRule text with
      | none => simp [walkSanitize, found]
      | some rule => simp [walkSanitize, found, valueRule_redacted_value clean found]
  | .array items => by simp [walkSanitize, walkSanitizeItems_again clean items]
  | .object fields => by simp [walkSanitize, walkSanitizeFields_again clean fields]
  | .null | .bool _ | .number _ => rfl

theorem walkSanitizeItems_again (clean : policy.ReplacementsClean) : ∀ items : List Json,
    (walkSanitizeItems policy (walkSanitizeItems policy items).1).1 =
      (walkSanitizeItems policy items).1
  | [] => rfl
  | item :: rest => by
      simp [walkSanitizeItems, walkSanitize_again clean item, walkSanitizeItems_again clean rest]

theorem walkSanitizeFields_again (clean : policy.ReplacementsClean) :
    ∀ fields : List (String × Json),
    (walkSanitizeFields policy (walkSanitizeFields policy fields).1).1 =
      (walkSanitizeFields policy fields).1
  | [] => rfl
  | (key, child) :: rest => by
      cases found : policy.keyRule key with
      | none =>
        simp [walkSanitizeFields, found, walkSanitize_again clean child,
          walkSanitizeFields_again clean rest]
      | some rule => simp [walkSanitizeFields, found, walkSanitizeFields_again clean rest]

end

/-! ## What the scan still finds -/

mutual

/-- All keys of a value, at any depth. -/
def Json.keys : Json → List String
  | .array items => itemKeys items
  | .object fields => fieldKeys fields
  | .null | .bool _ | .number _ | .string _ => []

def itemKeys : List Json → List String
  | [] => []
  | item :: rest => item.keys ++ itemKeys rest

def fieldKeys : List (String × Json) → List String
  | [] => []
  | (key, child) :: rest => key :: (child.keys ++ fieldKeys rest)

end

mutual

/-- **The scan of a redacted value is empty exactly when no key is forbidden.** -/
theorem scanValues_sanitized (clean : policy.ReplacementsClean) :
    ∀ (value : Json) (path : String),
    scanValues policy path (walkSanitize policy value).1 = [] ↔
      ∀ key ∈ value.keys, policy.keyRule key = none
  | .string text, path => by
      cases found : policy.valueRule text with
      | none => simp [walkSanitize, scanValues, Json.keys, found]
      | some rule =>
        simp [walkSanitize, scanValues, Json.keys, found, valueRule_redacted_value clean found]
  | .array items, path => by
      simpa [walkSanitize, scanValues, Json.keys] using scanItems_sanitized clean items path 0
  | .object fields, path => by
      simpa [walkSanitize, scanValues, Json.keys] using scanFields_sanitized clean fields path
  | .null, _ | .bool _, _ | .number _, _ => by simp [walkSanitize, scanValues, Json.keys]

theorem scanItems_sanitized (clean : policy.ReplacementsClean) :
    ∀ (items : List Json) (path : String) (index : Nat),
    scanItems policy path index (walkSanitizeItems policy items).1 = [] ↔
      ∀ key ∈ itemKeys items, policy.keyRule key = none
  | [], _, _ => by simp [walkSanitizeItems, scanItems, itemKeys]
  | item :: rest, path, index => by
      simp only [walkSanitizeItems, scanItems, itemKeys, append_eq_nil_iff, forall_mem_append]
      rw [scanValues_sanitized clean item, scanItems_sanitized clean rest]

theorem scanFields_sanitized (clean : policy.ReplacementsClean) :
    ∀ (fields : List (String × Json)) (path : String),
    scanFields policy path (walkSanitizeFields policy fields).1 = [] ↔
      ∀ key ∈ fieldKeys fields, policy.keyRule key = none
  | [], _ => by simp [walkSanitizeFields, scanFields, fieldKeys]
  | (key, child) :: rest, path => by
      simp only [walkSanitizeFields, scanFields, fieldKeys, append_eq_nil_iff,
        forall_mem_cons, forall_mem_append]
      rw [scanFields_sanitized clean rest]
      cases found : policy.keyRule key with
      | none => simp [scanValues_sanitized clean child]
      | some rule => simp

end

/-! ## Rules of the policy, rules of the structure -/

def Policy.ruleIds (policy : Policy) : List String :=
  (policy.valueRules ++ policy.keyRules).map Rule.id

mutual

/-- The walk reports rules of the policy only. -/
theorem scanValues_rules : ∀ (value : Json) (path : String),
    ∀ violation ∈ scanValues policy path value, violation.rule ∈ policy.ruleIds
  | .string text, path => by
      intro violation mem
      cases found : policy.valueRule text with
      | none => simp [scanValues, found] at mem
      | some rule =>
        simp only [scanValues, found, mem_singleton] at mem
        rw [mem]
        exact mem_map_of_mem (mem_append_left _ (mem_of_find?_eq_some found))
  | .array items, path => scanItems_rules items path 0
  | .object fields, path => scanFields_rules fields path
  | .null, _ | .bool _, _ | .number _, _ => nofun

theorem scanItems_rules : ∀ (items : List Json) (path : String) (index : Nat),
    ∀ violation ∈ scanItems policy path index items, violation.rule ∈ policy.ruleIds
  | [], _, _ => nofun
  | item :: rest, path, index => fun violation mem =>
    (mem_append.1 mem).elim (scanValues_rules item _ violation)
      (scanItems_rules rest path (index + 1) violation)

theorem scanFields_rules : ∀ (fields : List (String × Json)) (path : String),
    ∀ violation ∈ scanFields policy path fields, violation.rule ∈ policy.ruleIds
  | [], _ => nofun
  | (key, child) :: rest, path => by
      intro violation mem
      simp only [scanFields, mem_append] at mem
      rcases mem with (here | below) | later
      · cases found : policy.keyRule key with
        | none => simp [found] at here
        | some rule =>
          simp only [found, mem_singleton] at here
          rw [here]
          exact mem_map_of_mem (mem_append_right _ (mem_of_find?_eq_some found))
      · exact scanValues_rules child _ violation below
      · exact scanFields_rules rest path violation later

end

end Walks

/-- The rules of the structure checks. -/
def structureRules : List String :=
  ["shape.not_object", "schema.unknown_key", "shape.missing_key", "schema.report_schema",
    "schema.prefix", "schema.unknown_topic", "shape.finding_not_object", "schema.id_prefix",
    "shape.row_not_object", "shape.findings_not_array"]

/-- All violations of a list are of rules of the structure. -/
def Structural (violations : List Violation) : Prop :=
  ∀ violation ∈ violations, violation.rule ∈ structureRules

theorem structural_nil : Structural [] := nofun

theorem structural_one {violation : Violation}
    (known : violation.rule ∈ structureRules := by simp [structureRules]) :
    Structural [violation] := fun _ mem => mem_singleton.1 mem ▸ known

theorem structural_append {left right : List Violation} (inLeft : Structural left)
    (inRight : Structural right) : Structural (left ++ right) := fun violation mem =>
  (mem_append.1 mem).elim (inLeft violation) (inRight violation)

theorem structural_flatMap {α : Type} {items : List α} {check : α → List Violation}
    (each : ∀ item, Structural (check item)) : Structural (items.flatMap check) := by
  intro violation mem
  obtain ⟨item, -, found⟩ := mem_flatMap.1 mem
  exact each item violation found

theorem structural_unless {α : Type} {items : List α} {fine : α → Prop} [DecidablePred fine]
    {report : α → Violation} (each : ∀ item, (report item).rule ∈ structureRules) :
    Structural (items.filterMap fun item => if fine item then none else some (report item)) := by
  intro violation mem
  obtain ⟨item, -, found⟩ := mem_filterMap.1 mem
  split at found
  · cases found
  · exact some.inj found ▸ each item

theorem checkKeys_structural (allowed : List String) (path : String) :
    Structural (checkKeys fields allowed path) :=
  structural_unless fun _ => by simp [structureRules]

theorem missingKeys_structural (report : List (String × Json)) : Structural (missingKeys report) :=
  structural_unless fun _ => by simp [structureRules]

section

variable (policy : Policy)

theorem checkReportSchema_structural (report : List (String × Json)) :
    Structural (checkReportSchema policy report) := by
  unfold checkReportSchema
  split
  · exact structural_nil
  · split
    · exact structural_one
    · split
      · exact structural_one
      · exact structural_nil

theorem checkTopic_structural (report : List (String × Json)) :
    Structural (checkTopic policy report) := by
  unfold checkTopic
  split
  · exact structural_one
  · exact structural_nil

theorem checkFindingId_structural (report finding : List (String × Json))
    (path : String) : Structural (checkFindingId policy report finding path) := by
  unfold checkFindingId
  split
  · split
    · exact structural_nil
    · exact structural_one
  · exact structural_nil

theorem checkRow_structural (path : String) (index : Nat) (row : Json) :
    Structural (checkRow policy path index row) := by
  unfold checkRow
  split
  · exact checkKeys_structural _ _ _
  · exact structural_one

theorem checkFinding_structural (report : List (String × Json)) (index : Nat)
    (finding : Json) : Structural (checkFinding policy report index finding) := by
  unfold checkFinding
  split
  · exact structural_one
  · exact structural_append
      (structural_append (checkKeys_structural _ _ _) (checkFindingId_structural _ _ _ _))
      (structural_flatMap fun _ => checkRow_structural _ _ _ _)

theorem checkFindings_structural (report : List (String × Json)) :
    Structural (checkFindings policy report) := by
  unfold checkFindings
  split
  · exact structural_nil
  · split
    · exact structural_flatMap fun _ => checkFinding_structural _ _ _ _
    · exact structural_one

theorem checkSummary_structural (report : List (String × Json)) :
    Structural (checkSummary policy report) := by
  unfold checkSummary
  split
  · exact checkKeys_structural _ _ _
  · exact structural_nil

theorem checkStructure_structural (report : List (String × Json)) :
    Structural (checkStructure policy report) :=
  structural_append (structural_append (structural_append (structural_append
    (structural_append (checkKeys_structural _ _ _) (missingKeys_structural report))
    (checkReportSchema_structural policy report)) (checkTopic_structural policy report))
    (checkFindings_structural policy report)) (checkSummary_structural policy report)

theorem asObject_sanitized (value : Json) :
    (walkSanitize policy value).1.asObject =
      value.asObject.map fun fields => (walkSanitizeFields policy fields).1 := by
  cases value with
  | string text => cases found : policy.valueRule text <;> simp [walkSanitize, found, Json.asObject]
  | null | bool _ | number _ | array _ | object _ => simp [walkSanitize, Json.asObject]

end

/-- No rule of the embedded policy is named like a check of the structure. -/
theorem policy_rules_apart : ∀ rule ∈ structureRules, rule ∉ (policy isMatch).ruleIds := by
  have ids : (policy isMatch).ruleIds = (valueRules ++ forbiddenKeyNames).map RuleFile.id := rfl
  rw [ids]
  decide

/-- **Redaction leaves nothing to flag exactly when the report has no forbidden key**, whatever the
expressions match, as long as no replacement text is matched; read as usual they match none. A value
that is no object is not walked by the scan at all. -/
theorem sanitized_unflagged_iff (value : Json) :
    (∀ isWord, (policy (engine isWord)).ReplacementsClean) ∧
    ((policy isMatch).ReplacementsClean →
      (((∀ violation ∈ scan isMatch (sanitizeValue isMatch value).1,
          violation.rule ∉ (policy isMatch).ruleIds) ∧
        (sanitizeValue isMatch (sanitizeValue isMatch value).1).1 =
          (sanitizeValue isMatch value).1) ↔
      ∀ fields, value = .object fields →
        ∀ key ∈ value.keys, (policy isMatch).keyRule key = none)) := by
  refine ⟨policy_replacementsClean, fun clean => ?_⟩
  have again : (sanitizeValue isMatch (sanitizeValue isMatch value).1).1 =
      (sanitizeValue isMatch value).1 := walkSanitize_again clean value
  rw [and_iff_left again]
  cases value with
  | object fields =>
    have walked := scanValues_sanitized clean (.object fields) "$"
    have flagged : (∀ violation ∈ scan isMatch (sanitizeValue isMatch (.object fields)).1,
        violation.rule ∉ (policy isMatch).ruleIds) ↔
          scanValues (policy isMatch) "$" (sanitizeValue isMatch (.object fields)).1 = [] := by
      constructor
      · intro none_
        refine eq_nil_iff_forall_not_mem.2 fun violation mem => ?_
        exact none_ violation (mem_append_right _ mem) (scanValues_rules _ _ violation mem)
      · intro empty violation mem
        rcases mem_append.1 mem with structural | inWalk
        · exact policy_rules_apart isMatch _ (checkStructure_structural _ _ violation structural)
        · rw [empty] at inWalk
          cases inWalk
    rw [flagged]
    exact walked.trans ⟨fun none_ _ _ => none_, fun none_ => none_ fields rfl⟩
  | null | bool _ | number _ | string _ | array _ =>
    refine ⟨fun _ fields isObject => (nomatch isObject), fun _ violation mem => ?_⟩
    rw [scan, scanWith, sanitizeValue, asObject_sanitized] at mem
    rw [mem_singleton.1 mem]
    exact policy_rules_apart isMatch _ (by simp [structureRules])

/-- Word characters within ASCII. -/
def asciiWord (c : Char) : Bool := c.isAlphanum || c == '_'

/-- No rule matches the replacement texts, so a credential in a plain field is gone for good. -/
theorem sanitized_unflagged_iff_engine :
    (∀ violation ∈ scan (engine asciiWord) (sanitizeValue (engine asciiWord)
          (.object [("note", .string "postgres://a:b@c")])).1,
        violation.rule ∉ (policy (engine asciiWord)).ruleIds) ∧
      (sanitizeValue (engine asciiWord) (sanitizeValue (engine asciiWord)
          (.object [("note", .string "postgres://a:b@c")])).1).1 =
        (sanitizeValue (engine asciiWord) (.object [("note", .string "postgres://a:b@c")])).1 := by
  refine ((sanitized_unflagged_iff (engine asciiWord) _).2 (policy_replacementsClean asciiWord)).2 ?_
  intro fields _ key mem
  have plain : (policy (engine asciiWord)).keyRule "note" = none := by decide +kernel
  simp only [Json.keys, fieldKeys, append_nil, mem_singleton] at mem
  rw [mem, plain]

/-- A report of the right structure with a forbidden key in a nested place. -/
def nestedToken (secret : Json) : Json :=
  .object [("topic", .string "disk"), ("report_schema", .string "wist.investigation.disk/v1"),
    ("findings", .array [.object [("id", .string "disk.top_files"),
      ("coverage", .object [("token", secret)])]])]

/-- **The masked value is still reported**, and nothing else is. -/
theorem sanitized_key_flagged :
    scan (engine asciiWord) (sanitizeValue (engine asciiWord) (nestedToken (.string "hunter2"))).1 =
      [⟨"$.findings[0].coverage.token", "key.credential", "键名表明正文是凭据本体"⟩] ∧
    "key.credential" ∈ (policy (engine asciiWord)).ruleIds := by
  decide +kernel

/-! ## Two values, one result -/

mutual

/-- Two values that differ only in strings of the same first rule and below forbidden keys. -/
inductive Alike (policy : Policy) : Json → Json → Prop
  | same (value : Json) : Alike policy value value
  | masked {left right : String} {rule : Rule} (leftRule : policy.valueRule left = some rule)
      (rightRule : policy.valueRule right = some rule) :
      Alike policy (.string left) (.string right)
  | array {left right : List Json} (items : AlikeItems policy left right) :
      Alike policy (.array left) (.array right)
  | object {left right : List (String × Json)} (fields : AlikeFields policy left right) :
      Alike policy (.object left) (.object right)

inductive AlikeItems (policy : Policy) : List Json → List Json → Prop
  | nil : AlikeItems policy [] []
  | cons {left right : Json} {lefts rights : List Json} (first : Alike policy left right)
      (rest : AlikeItems policy lefts rights) :
      AlikeItems policy (left :: lefts) (right :: rights)

inductive AlikeFields (policy : Policy) : List (String × Json) → List (String × Json) → Prop
  | nil : AlikeFields policy [] []
  | hidden {key : String} {rule : Rule} (forbidden : policy.keyRule key = some rule)
      (left right : Json) {lefts rights : List (String × Json)}
      (rest : AlikeFields policy lefts rights) :
      AlikeFields policy ((key, left) :: lefts) ((key, right) :: rights)
  | shown (key : String) {left right : Json} {lefts rights : List (String × Json)}
      (first : Alike policy left right) (rest : AlikeFields policy lefts rights) :
      AlikeFields policy ((key, left) :: lefts) ((key, right) :: rights)

end

mutual

/-- The walk does not tell such values apart, not even in what it counts. -/
theorem walkSanitize_alike {policy : Policy} {left right : Json} (alike : Alike policy left right) :
    walkSanitize policy left = walkSanitize policy right := by
  cases alike with
  | same => rfl
  | masked leftRule rightRule => simp [walkSanitize, leftRule, rightRule]
  | array items => simp [walkSanitize, walkSanitizeItems_alike items]
  | object fields => simp [walkSanitize, walkSanitizeFields_alike fields]

theorem walkSanitizeItems_alike {policy : Policy} {left right : List Json}
    (alike : AlikeItems policy left right) :
    walkSanitizeItems policy left = walkSanitizeItems policy right := by
  cases alike with
  | nil => rfl
  | cons first rest =>
    simp [walkSanitizeItems, walkSanitize_alike first, walkSanitizeItems_alike rest]

theorem walkSanitizeFields_alike {policy : Policy} {left right : List (String × Json)}
    (alike : AlikeFields policy left right) :
    walkSanitizeFields policy left = walkSanitizeFields policy right := by
  cases alike with
  | nil => rfl
  | hidden forbidden left right rest =>
    simp [walkSanitizeFields, forbidden, walkSanitizeFields_alike rest]
  | shown key first rest =>
    simp [walkSanitizeFields, walkSanitize_alike first, walkSanitizeFields_alike rest]

end

/-- **Redaction reveals of a secret only which rule it met.** -/
theorem sanitizeValue_noninterference {left right : Json}
    (alike : Alike (policy isMatch) left right) :
    sanitizeValue isMatch left = sanitizeValue isMatch right :=
  walkSanitize_alike alike

/-- Any two tokens under a forbidden key. -/
theorem sanitizeValue_noninterference_token :
    sanitizeValue (engine asciiWord) (nestedToken (.string "hunter2")) =
      sanitizeValue (engine asciiWord) (nestedToken (.array [.null, .string "postgres://a:b@c"])) := by
  have forbidden : ((policy (engine asciiWord)).keyRule "token").isSome = true := by decide +kernel
  obtain ⟨rule, found⟩ := isSome_iff_exists.1 forbidden
  exact sanitizeValue_noninterference (engine asciiWord)
    (.object (.shown _ (.same _) (.shown _ (.same _) (.shown _
      (.array (.cons (.object (.shown _ (.same _) (.shown _
        (.object (.hidden found _ _ .nil)) .nil))) .nil)) .nil))))

end WistAgentd.Investigate
