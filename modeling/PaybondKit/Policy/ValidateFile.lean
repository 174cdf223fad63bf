import PaybondKit.Policy.Merge
import PaybondKit.Policy.Validate
import PaybondKit.Policy.YamlLayout

/-!
# Validating a policy file

What the schema and the merge find wrong with a policy is a validation error, and the validator
reports it. A scalar is taken for a number by one predicate and converted by another function, so a
text can raise an error that is no validation error, which the validator lets through.
-/

namespace PaybondKit.Policy

open Agent (PyExc CompletionCatalog)

/-! ## Files -/

/-- A policy file at a path, and the file that a base policy beside it names. -/
structure PolicyFile where
  path : String
  content : ByteArray
  base : String → Except LibraryFailure (String × ByteArray)

/-- `\r` and `\r\n` are read as `\n`. -/
def universalNewlines : List Char → List Char
  | [] => []
  | '\r' :: '\n' :: rest => '\n' :: universalNewlines rest
  | c :: rest => (if c = '\r' then '\n' else c) :: universalNewlines rest

def decodeText (content : ByteArray) : Option String :=
  (String.fromUTF8? content).map fun text => String.ofList (universalNewlines text.toList)

/-- `path.read_text(encoding="utf-8")`. -/
def readText (content : ByteArray) : Except PyExc String :=
  match decodeText content with
  | some text => .ok text
  | none => .error (.valueError "'utf-8' codec can't decode bytes")

section Load

variable (platform : PolicyTextPlatform) (floatRepr : PyFloat → String)

/-- `_load_document`. -/
def loadDocument (path : String) (content : ByteArray) : Except PyExc PaybondPolicyDocument := do
  let text ← readText content
  let raw ← parsePolicyDocumentText platform text path
  (parsePaybondPolicyDocument (.dict raw.items)).mapError .policyValidation

/-- `_resolve_effective_document`. -/
def PolicyFile.resolveEffectiveDocument (file : PolicyFile) :
    PaybondPolicyDocument → Except PyExc PaybondPolicyDocumentV1
  | .v1 document => (toEffectivePolicyDocument (.v1 document)).mapError .policyValidation
  | .v2 document =>
      match document.extends.bind fun parent => truthyStr parent.basePolicy with
      | some basePath => do
          let (path, content) ← (file.base basePath).mapError LibraryFailure.exc
          let base ← loadDocument platform path content
          let merged ←
            (mergePaybondPolicies floatRepr base document {}).mapError PyExc.policyValidation
          return merged.effective
      | none => (toEffectivePolicyDocument (.v2 document)).mapError .policyValidation

/-- `PaybondPolicy.load`, of a path. -/
def loadPolicy (file : PolicyFile) : Except PyExc PaybondPolicyDocumentV1 := do
  let document ← loadDocument platform file.path file.content
  PolicyFile.resolveEffectiveDocument platform floatRepr file document

variable (catalog : CompletionCatalog)

/-- `PolicyValidator.validate`, without a gateway. -/
def validate (file : PolicyFile) (strict : Bool) : Except PyExc PolicyValidatorResult :=
  match loadPolicy platform floatRepr file with
  | .ok document => .ok (validateDocument catalog document strict)
  | .error (.policyValidation failure) =>
      .ok
        { valid := false
          policyName := none
          tools := { sideEffecting := 0, readOnly := 0 }
          errors :=
            [{ path := failure.path, code := "policy.schema_invalid", message := failure.message }] }
  | .error failure => .error failure

end Load

/-! ## What the validator lets through -/

/-- The bytes are UTF-8, and their text raises nothing but validation errors. -/
def Readable (platform : PolicyTextPlatform) (content : ByteArray) : Prop :=
  ∃ text, decodeText content = some text ∧ ¬Leaks platform text

/-- The file holds an overlay that names the file of its base. -/
def NamesBase (platform : PolicyTextPlatform) (file : PolicyFile) (basePath : String) : Prop :=
  ∃ document parent, loadDocument platform file.path file.content = .ok (.v2 document) ∧
    document.extends = some parent ∧ truthyStr parent.basePolicy = some basePath

section Claim

variable {platform : PolicyTextPlatform} {floatRepr : PyFloat → String}

theorem contained_ok {α : Type} (value : α) : Contained (.ok value) := .inl ⟨value, rfl⟩

theorem contained_mapError {α : Type} (result : Parsed α) :
    Contained (result.mapError PyExc.policyValidation) := by
  cases result with
  | ok value => exact contained_ok value
  | error invalid => exact .inr ⟨invalid, rfl⟩

theorem contained_bind_iff {α β : Type} {result : Except PyExc α} {next : α → Except PyExc β} :
    Contained (result >>= next) ↔
      Contained result ∧ ∀ value, result = .ok value → Contained (next value) := by
  cases result with
  | ok value =>
      constructor
      · intro hnext
        refine ⟨contained_ok value, fun other hother => ?_⟩
        obtain rfl := Except.ok.inj hother
        exact hnext
      · rintro ⟨-, hnext⟩
        exact hnext value rfl
  | error failure =>
      constructor
      · rintro (⟨value, hvalue⟩ | ⟨invalid, hinvalid⟩)
        · cases hvalue
        · cases hinvalid
          exact ⟨.inr ⟨invalid, rfl⟩, nofun⟩
      · rintro ⟨⟨value, hvalue⟩ | ⟨invalid, hinvalid⟩, -⟩
        · cases hvalue
        · cases hinvalid
          exact .inr ⟨invalid, rfl⟩

theorem contained_loadDocument_iff (path : String) (content : ByteArray) :
    Contained (loadDocument platform path content) ↔ Readable platform content := by
  unfold loadDocument readText Readable
  cases decodeText content with
  | none =>
      refine iff_of_false (not_contained_libraryFailure (.valueError _)) ?_
      simp
  | some text =>
      rw [except_ok_bind, contained_bind_iff, contained_parsePolicyDocumentText_iff]
      constructor
      · rintro ⟨hreads, -⟩
        exact ⟨text, rfl, hreads⟩
      · rintro ⟨other, hother, hreads⟩
        obtain rfl := Option.some.inj hother
        exact ⟨hreads, fun raw _ => contained_mapError _⟩

/-- Only the file of a base can be at fault once the policy file is read. -/
theorem contained_resolveEffectiveDocument_iff (file : PolicyFile)
    (document : PaybondPolicyDocument) :
    Contained (PolicyFile.resolveEffectiveDocument platform floatRepr file document) ↔
      ∀ overlay parent basePath, document = .v2 overlay → overlay.extends = some parent →
        truthyStr parent.basePolicy = some basePath →
          ∃ path content, file.base basePath = .ok (path, content) ∧ Readable platform content := by
  cases document with
  | v1 document =>
      rw [PolicyFile.resolveEffectiveDocument]
      refine iff_of_true (contained_mapError _) ?_
      intro overlay parent basePath hdocument
      cases hdocument
  | v2 document =>
      rw [PolicyFile.resolveEffectiveDocument]
      cases hextends : document.extends with
      | none =>
          refine iff_of_true (contained_mapError _) ?_
          rintro overlay parent basePath ⟨⟩ hparent
          rw [hextends] at hparent
          cases hparent
      | some parent =>
          rw [Option.bind_some]
          cases hbase : truthyStr parent.basePolicy with
          | none =>
              refine iff_of_true (contained_mapError _) ?_
              rintro overlay other basePath ⟨⟩ hother hpath
              obtain rfl := Option.some.inj (hextends.symm.trans hother)
              rw [hbase] at hpath
              cases hpath
          | some basePath =>
              have hnames : (∀ overlay other path,
                  PaybondPolicyDocument.v2 document = .v2 overlay → overlay.extends = some other →
                    truthyStr other.basePolicy = some path →
                      ∃ label content, file.base path = .ok (label, content) ∧
                        Readable platform content) ↔
                  ∃ label content, file.base basePath = .ok (label, content) ∧
                    Readable platform content := by
                constructor
                · intro hall
                  exact hall document parent basePath rfl hextends hbase
                · rintro hread overlay other path ⟨⟩ hother hpath
                  obtain rfl := Option.some.inj (hextends.symm.trans hother)
                  obtain rfl := Option.some.inj (hbase.symm.trans hpath)
                  exact hread
              rw [hnames]
              dsimp only
              cases file.base basePath with
              | error failure =>
                  refine iff_of_false (not_contained_libraryFailure failure) ?_
                  simp
              | ok source =>
                  obtain ⟨path, content⟩ := source
                  have hmap : (Except.ok (path, content) : Except LibraryFailure _).mapError
                      LibraryFailure.exc = .ok (path, content) := rfl
                  rw [hmap, except_ok_bind, contained_bind_iff, contained_loadDocument_iff]
                  constructor
                  · rintro ⟨hreads, -⟩
                    exact ⟨path, content, rfl, hreads⟩
                  · rintro ⟨other, bytes, hother, hreads⟩
                    obtain ⟨rfl, rfl⟩ := Prod.mk.inj (Except.ok.inj hother)
                    refine ⟨hreads, fun base _ => ?_⟩
                    rw [contained_bind_iff]
                    exact ⟨contained_mapError _, fun merged _ => contained_ok _⟩

theorem contained_loadPolicy_iff (file : PolicyFile) :
    Contained (loadPolicy platform floatRepr file) ↔
      Readable platform file.content ∧ ∀ basePath, NamesBase platform file basePath →
        ∃ path content, file.base basePath = .ok (path, content) ∧ Readable platform content := by
  rw [loadPolicy, contained_bind_iff, contained_loadDocument_iff]
  refine and_congr_right fun _ => ?_
  simp only [contained_resolveEffectiveDocument_iff]
  constructor
  · rintro hall basePath ⟨overlay, parent, hload, hparent, hpath⟩
    exact hall _ hload overlay parent basePath rfl hparent hpath
  · rintro hall document hload overlay parent basePath rfl hparent hpath
    exact hall basePath ⟨overlay, parent, hload, hparent, hpath⟩

theorem validate_eq_ok_iff {catalog : CompletionCatalog} {file : PolicyFile} {strict : Bool} :
    (∃ report, validate platform floatRepr catalog file strict = .ok report) ↔
      Contained (loadPolicy platform floatRepr file) := by
  unfold validate
  constructor
  · rintro ⟨report, hreport⟩
    split at hreport
    next document hload =>
      rw [hload]
      exact contained_ok document
    next failure hload =>
      rw [hload]
      exact .inr ⟨failure, rfl⟩
    next => cases hreport
  · rintro (⟨document, hload⟩ | ⟨failure, hload⟩)
    · rw [hload]
      exact ⟨_, rfl⟩
    · rw [hload]
      exact ⟨_, rfl⟩

end Claim

/-! ## Two dashes before a number -/

def dashedText : String := "version: --5"

def dashedFile : PolicyFile where
  path := "paybond.policy.yaml"
  content := dashedText.toUTF8
  base := fun _ => .error (.other "FileNotFoundError" "no such file")

def dashedLine : YamlLine where
  indent := 0
  trimmed := dashedText
  raw := dashedText
  stripped := by decide +kernel

theorem leaks_dashedText : Leaks platformDigits dashedText := by
  have hstrip : pyStrip dashedText = dashedText := dashedLine.stripped
  have hjson : (jsonLoads platformDigits.parseFloat dashedText).isNone = true := by decide +kernel
  have hlines : tokenizeYamlLines dashedText = [dashedLine] := by decide +kernel
  have hread : dashedLine.reading dashedLine.isItem = some (some "version", some "--5") := by
    decide +kernel
  rw [Leaks, hstrip, hlines]
  refine ⟨by decide +kernel, .inr ⟨Option.isNone_iff_eq_none.mp hjson, dashedLine, rfl, "--5",
    .here hread, ?_, ?_, ?_⟩⟩
  · decide +kernel
  · decide +kernel
  · decide +kernel

end PaybondKit.Policy
