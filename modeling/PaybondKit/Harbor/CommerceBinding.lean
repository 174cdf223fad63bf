import PaybondKit.Foundation.PyValue

/-!
# Commerce bindings on orders

An order carries the tenant and the intent that it belongs to, in the metadata of a Stripe object
or in the note attributes of a Shopify order. Both carriers keep what else the order says, and
neither lets a binding take the place of another.
-/

namespace PaybondKit.Commerce

structure CommerceBinding where
  tenantId : String
  intentId : String
  deriving DecidableEq

/-- The `ValueError`s of the helpers. -/
inductive CommerceBindingError where
  | required (label : String)
  | collision (label existing next : String)
  deriving DecidableEq

/-- Their text, given how the platform shows a string. -/
def CommerceBindingError.message (reprStr : String → String) : CommerceBindingError → String
  | .required label => "commerce_binding: " ++ label ++ " is required"
  | .collision label existing next =>
      "commerce_binding: " ++ label ++ " collision (" ++ reprStr existing ++ " != " ++
        reprStr next ++ ")"

def tenantIdKey : String := "tenant_id"

def intentIdKey : String := "paybond_intent_id"

def requireNonEmptyTrimmed (value label : String) : Except CommerceBindingError String :=
  let trimmed := pyStrip value
  if trimmed = "" then .error (.required label) else .ok trimmed

def normalizeCommerceBinding (binding : CommerceBinding) :
    Except CommerceBindingError CommerceBinding := do
  let tenantId ← requireNonEmptyTrimmed binding.tenantId "tenant_id"
  let intentId ← requireNonEmptyTrimmed binding.intentId "intent_id"
  return { tenantId, intentId }

def assertNoCollision (existingValue : Option String) (nextValue label : String) :
    Except CommerceBindingError Unit :=
  match existingValue with
  | none => .ok ()
  | some existing => raiseIf (existing ≠ nextValue) (.collision label existing nextValue)

/-! ## Stripe metadata -/

def encodeToStripeMetadata (binding : CommerceBinding)
    (existingMetadata : OrderedDict String String) :
    Except CommerceBindingError (OrderedDict String String) := do
  let normalized ← normalizeCommerceBinding binding
  assertNoCollision (existingMetadata.get? tenantIdKey) normalized.tenantId tenantIdKey
  assertNoCollision (existingMetadata.get? intentIdKey) normalized.intentId intentIdKey
  return (existingMetadata.set tenantIdKey normalized.tenantId).set intentIdKey normalized.intentId

def decodeFromStripeMetadata (metadata : OrderedDict String PyValue) :
    Except CommerceBindingError (Option CommerceBinding) :=
  if metadata.items.isEmpty then .ok none
  else
    match (metadata.getValue tenantIdKey).asStr, (metadata.getValue intentIdKey).asStr with
    | some tenantId, some intentId => some <$> normalizeCommerceBinding { tenantId, intentId }
    | _, _ => .ok none

/-! ## Shopify note attributes -/

structure ShopifyNoteAttribute where
  name : String
  value : String
  deriving DecidableEq

def ShopifyNoteAttribute.toMapping (attr : ShopifyNoteAttribute) : OrderedDict String PyValue :=
  .ofList [("name", .str attr.name), ("value", .str attr.value)]

def ShopifyNoteAttribute.toPy (attr : ShopifyNoteAttribute) : PyValue := .dict attr.toMapping.items

/-- A round of the loop: nothing is kept of a binding key that does not collide. -/
def keepAttribute (normalized : CommerceBinding) (attr : OrderedDict String PyValue) :
    Except CommerceBindingError (List ShopifyNoteAttribute) :=
  match (attr.getValue "name").asStr, (attr.getValue "value").asStr with
  | some name, some value =>
      if name = tenantIdKey then do
        assertNoCollision (some value) normalized.tenantId name
        return []
      else if name = intentIdKey then do
        assertNoCollision (some value) normalized.intentId name
        return []
      else .ok [{ name, value }]
  | _, _ => .ok []

def encodeToShopifyNoteAttributes (binding : CommerceBinding)
    (existingAttributes : List (OrderedDict String PyValue)) :
    Except CommerceBindingError (List ShopifyNoteAttribute) := do
  let normalized ← normalizeCommerceBinding binding
  let out ← existingAttributes.mapM (keepAttribute normalized)
  return out.flatten ++
    [{ name := tenantIdKey, value := normalized.tenantId },
      { name := intentIdKey, value := normalized.intentId }]

/-- The value of a binding key, unless another was found before. -/
def foundValue (key name value : String) (found : Option String) :
    Except CommerceBindingError (Option String) :=
  if name = key then
    match found with
    | none => .ok (some value)
    | some earlier => do
        raiseIf (earlier ≠ value) (.collision name earlier value)
        return some value
  else .ok found

/-- A round of the loop, over the tenant and the intent found so far. -/
def readNoteAttribute (found : Option String × Option String) (entry : PyValue) :
    Except CommerceBindingError (Option String × Option String) :=
  match (entry.getItem "name").asStr, (entry.getItem "value").asStr with
  | some name, some value => do
      let tenantId ← foundValue tenantIdKey name value found.1
      let intentId ← foundValue intentIdKey name value found.2
      return (tenantId, intentId)
  | _, _ => .ok found

def decodeFromShopifyNoteAttributes (noteAttributes : PyValue) :
    Except CommerceBindingError (Option CommerceBinding) :=
  match noteAttributes with
  | .list entries => do
      match ← entries.foldlM readNoteAttribute (none, none) with
      | (some tenantId, some intentId) => some <$> normalizeCommerceBinding { tenantId, intentId }
      | _ => return none
  | _ => .ok none

/-! ## Both carriers -/

section Normalization

variable {binding : CommerceBinding}

def CommerceBinding.stripped (binding : CommerceBinding) : CommerceBinding where
  tenantId := pyStrip binding.tenantId
  intentId := pyStrip binding.intentId

structure CommerceBinding.NonBlank (binding : CommerceBinding) : Prop where
  tenantId : pyStrip binding.tenantId ≠ ""
  intentId : pyStrip binding.intentId ≠ ""

theorem normalizeCommerceBinding_eq (hbinding : binding.NonBlank) :
    normalizeCommerceBinding binding = .ok binding.stripped := by
  unfold normalizeCommerceBinding requireNonEmptyTrimmed
  dsimp only
  rw [if_neg hbinding.tenantId, if_neg hbinding.intentId]
  rfl

theorem stripped_stripped : binding.stripped.stripped = binding.stripped := by
  simp [CommerceBinding.stripped, pyStrip_pyStrip]

theorem CommerceBinding.NonBlank.stripped (hbinding : binding.NonBlank) :
    binding.stripped.NonBlank where
  tenantId := by
    rw [CommerceBinding.stripped, pyStrip_pyStrip]
    exact hbinding.tenantId
  intentId := by
    rw [CommerceBinding.stripped, pyStrip_pyStrip]
    exact hbinding.intentId

/-- A binding that was normalized is read back as it is. -/
theorem normalizeCommerceBinding_stripped (hbinding : binding.NonBlank) :
    normalizeCommerceBinding binding.stripped = .ok binding.stripped := by
  rw [normalizeCommerceBinding_eq hbinding.stripped, stripped_stripped]

end Normalization

/-- The binding of the values found under its keys, if both were. -/
def bindingOf : Option String × Option String →
    Except CommerceBindingError (Option CommerceBinding)
  | (some tenantId, some intentId) => some <$> normalizeCommerceBinding { tenantId, intentId }
  | _ => .ok none

theorem bindingOf_stripped {binding : CommerceBinding} (hbinding : binding.NonBlank) :
    bindingOf (some binding.stripped.tenantId, some binding.stripped.intentId) =
      .ok (some binding.stripped) := by
  have hread := normalizeCommerceBinding_stripped hbinding
  rw [bindingOf, hread]
  rfl

/-! ### What an order says -/

def isBindingKey (name : String) : Bool := name = tenantIdKey || name = intentIdKey

/-- Under a binding key, the value of the binding. -/
def CommerceBinding.Agrees (binding : CommerceBinding) (name value : String) : Prop :=
  (name = tenantIdKey → value = binding.tenantId) ∧ (name = intentIdKey → value = binding.intentId)

theorem agrees_of_other {binding : CommerceBinding} {name value : String}
    (hother : isBindingKey name = false) : binding.Agrees name value := by
  simp only [isBindingKey, Bool.or_eq_false_iff, decide_eq_false_iff_not] at hother
  exact ⟨fun htenant => absurd htenant hother.1, fun hintent => absurd hintent hother.2⟩

theorem tenantIdKey_ne_intentIdKey : tenantIdKey ≠ intentIdKey := by decide

theorem assertNoCollision_eq_ok {existingValue : Option String} {nextValue label : String}
    {done : Unit} : assertNoCollision existingValue nextValue label = .ok done ↔
      ∀ value ∈ existingValue, value = nextValue := by
  cases existingValue with
  | none => simp [assertNoCollision]
  | some existing => simp [assertNoCollision]

section Stripe

variable {binding : CommerceBinding} {existing out : OrderedDict String String}

theorem items_set_filter {dict : OrderedDict String String} {key value : String}
    (keep : String × String → Bool) (hdrop : ∀ value, keep (key, value) = false) :
    (dict.set key value).items.filter keep = dict.items.filter keep := by
  unfold OrderedDict.set
  split
  · rw [OrderedDict.mapValues]
    dsimp only
    induction dict.items with
    | nil => rfl
    | cons item items ih =>
        obtain ⟨name, stored⟩ := item
        by_cases hname : name = key
        · subst hname
          simp [hdrop, ih]
        · simp [hname, List.filter_cons, ih]
  · simp [hdrop]

theorem set_eq_self {dict : OrderedDict String String} {key value : String}
    (hvalue : dict.get? key = some value) : dict.set key value = dict := by
  have hitem := OrderedDict.get?_eq_some_iff.mp hvalue
  have hkey : key ∈ dict.keys := List.mem_map_of_mem hitem
  rw [OrderedDict.set, dif_pos hkey]
  refine OrderedDict.ext ?_
  refine (List.map_congr_left fun item hmem => ?_).trans (List.map_id _)
  by_cases heq : item.1 = key
  · subst heq
    have hsame := OrderedDict.value_unique hitem hmem
    simp [hsame]
  · simp [heq]

theorem agrees_items_iff :
    (∀ item ∈ existing.items, binding.Agrees item.1 item.2) ↔
      (∀ value ∈ existing.get? tenantIdKey, value = binding.tenantId) ∧
        ∀ value ∈ existing.get? intentIdKey, value = binding.intentId := by
  simp only [Option.mem_def, OrderedDict.get?_eq_some_iff]
  constructor
  · intro hagrees
    exact ⟨fun value hmem => (hagrees _ hmem).1 rfl, fun value hmem => (hagrees _ hmem).2 rfl⟩
  · rintro ⟨htenant, hintent⟩ ⟨name, value⟩ hmem
    constructor
    · rintro rfl
      exact htenant value hmem
    · rintro rfl
      exact hintent value hmem

/-- Stripe metadata take a binding just if they carry no other. -/
theorem encodeToStripeMetadata_eq_ok (hbinding : binding.NonBlank) :
    encodeToStripeMetadata binding existing = .ok out ↔
      (∀ item ∈ existing.items, binding.stripped.Agrees item.1 item.2) ∧
        (existing.set tenantIdKey binding.stripped.tenantId).set intentIdKey
          binding.stripped.intentId = out := by
  unfold encodeToStripeMetadata
  rw [normalizeCommerceBinding_eq hbinding, except_ok_bind, except_bind_eq_ok, agrees_items_iff]
  simp only [except_bind_eq_ok, assertNoCollision_eq_ok, except_pure_eq_ok]
  simp [and_assoc]

theorem get?_encoded (existing : OrderedDict String String) (binding : CommerceBinding)
    (key : String) :
    ((existing.set tenantIdKey binding.tenantId).set intentIdKey binding.intentId).get? key =
      if key = intentIdKey then some binding.intentId
      else if key = tenantIdKey then some binding.tenantId else existing.get? key := by
  rw [OrderedDict.get?_set, OrderedDict.get?_set]

theorem agrees_encoded :
    ∀ item ∈ ((existing.set tenantIdKey binding.tenantId).set intentIdKey binding.intentId).items,
      binding.Agrees item.1 item.2 := by
  rw [agrees_items_iff, get?_encoded, get?_encoded]
  simp [tenantIdKey_ne_intentIdKey]

theorem asStr_getValue (key : String) :
    ((existing.mapValues fun _ value => PyValue.str value).getValue key).asStr =
      existing.get? key := by
  rw [OrderedDict.getValue, OrderedDict.get?_mapValues]
  cases existing.get? key with
  | none => rfl
  | some value => rfl

/-- The metadata carry the binding of the values found under its keys. -/
theorem decodeFromStripeMetadata_eq :
    decodeFromStripeMetadata (existing.mapValues fun _ value => .str value) =
      bindingOf (existing.get? tenantIdKey, existing.get? intentIdKey) := by
  unfold decodeFromStripeMetadata bindingOf
  rw [asStr_getValue, asStr_getValue]
  split
  next hempty =>
    have hnil : existing.items = [] := by simpa [OrderedDict.mapValues] using hempty
    simp [OrderedDict.get?, hnil]
  next => split <;> simp_all

theorem decode_encoded (hbinding : binding.NonBlank)
    (hout : encodeToStripeMetadata binding existing = .ok out) :
    decodeFromStripeMetadata (out.mapValues fun _ value => .str value) =
      .ok (some binding.stripped) := by
  obtain ⟨-, rfl⟩ := (encodeToStripeMetadata_eq_ok hbinding).mp hout
  rw [decodeFromStripeMetadata_eq, get?_encoded, get?_encoded, if_neg tenantIdKey_ne_intentIdKey,
    if_pos rfl, if_pos rfl]
  exact bindingOf_stripped hbinding

theorem encode_encoded (hbinding : binding.NonBlank)
    (hout : encodeToStripeMetadata binding existing = .ok out) :
    encodeToStripeMetadata binding out = .ok out := by
  obtain ⟨-, rfl⟩ := (encodeToStripeMetadata_eq_ok hbinding).mp hout
  refine (encodeToStripeMetadata_eq_ok hbinding).mpr ⟨agrees_encoded, ?_⟩
  have htenant := get?_encoded existing binding.stripped tenantIdKey
  have hintent := get?_encoded existing binding.stripped intentIdKey
  rw [if_neg tenantIdKey_ne_intentIdKey, if_pos rfl] at htenant
  rw [if_pos rfl] at hintent
  rw [set_eq_self htenant, set_eq_self hintent]

theorem others_encoded (hbinding : binding.NonBlank)
    (hout : encodeToStripeMetadata binding existing = .ok out) :
    out.items.filter (fun item => !isBindingKey item.1) =
      existing.items.filter fun item => !isBindingKey item.1 := by
  obtain ⟨-, rfl⟩ := (encodeToStripeMetadata_eq_ok hbinding).mp hout
  rw [items_set_filter, items_set_filter]
  · simp [isBindingKey]
  · simp [isBindingKey]

end Stripe

section Shopify

variable {binding : CommerceBinding} {existing : List ShopifyNoteAttribute}
  {attr : ShopifyNoteAttribute} {found : Option String × Option String}

theorem getValue_toMapping : attr.toMapping.getValue "name" = .str attr.name ∧
    attr.toMapping.getValue "value" = .str attr.value := by
  have hnodup : ([("name", PyValue.str attr.name), ("value", .str attr.value)].map
      Prod.fst).Nodup := by simp
  have hname : attr.toMapping.get? "name" = some (.str attr.name) :=
    OrderedDict.get?_ofList_of_mem hnodup List.mem_cons_self
  have hvalue : attr.toMapping.get? "value" = some (.str attr.value) :=
    OrderedDict.get?_ofList_of_mem hnodup (List.mem_cons_of_mem _ List.mem_cons_self)
  simp [OrderedDict.getValue, hname, hvalue]

theorem keepAttribute_eq_ok {kept : List ShopifyNoteAttribute} :
    keepAttribute binding attr.toMapping = .ok kept ↔ binding.Agrees attr.name attr.value ∧
      (if isBindingKey attr.name then [] else [attr]) = kept := by
  unfold keepAttribute
  rw [getValue_toMapping.1, getValue_toMapping.2]
  dsimp only [PyValue.asStr]
  by_cases htenant : attr.name = tenantIdKey
  · have hother : attr.name ≠ intentIdKey := htenant ▸ tenantIdKey_ne_intentIdKey
    simp [htenant, except_map_eq_ok, assertNoCollision_eq_ok, CommerceBinding.Agrees,
      isBindingKey, tenantIdKey_ne_intentIdKey]
  · by_cases hintent : attr.name = intentIdKey
    · simp [hintent, except_map_eq_ok, assertNoCollision_eq_ok, CommerceBinding.Agrees,
        isBindingKey, tenantIdKey_ne_intentIdKey.symm]
    · simp [htenant, hintent, CommerceBinding.Agrees, isBindingKey]

theorem mapM_keepAttribute_eq_ok {kept : List (List ShopifyNoteAttribute)} :
    (existing.map ShopifyNoteAttribute.toMapping).mapM (keepAttribute binding) = .ok kept ↔
      (∀ attr ∈ existing, binding.Agrees attr.name attr.value) ∧
        existing.map (fun attr => if isBindingKey attr.name then [] else [attr]) = kept := by
  induction existing generalizing kept with
  | nil => simp
  | cons attr existing ih =>
      rw [List.map_cons, List.mapM_cons]
      simp only [except_bind_eq_ok, keepAttribute_eq_ok, ih, except_pure_eq_ok]
      simp [and_assoc]

theorem flatten_kept :
    (existing.map fun attr => if isBindingKey attr.name then [] else [attr]).flatten =
      existing.filter fun attr => !isBindingKey attr.name := by
  induction existing with
  | nil => rfl
  | cons attr existing ih =>
      by_cases hkey : isBindingKey attr.name = true
      · simp [hkey, ih]
      · simp [hkey, ih]

/-- The attributes of a binding, in their order. -/
def CommerceBinding.attributes (binding : CommerceBinding) : List ShopifyNoteAttribute :=
  [{ name := tenantIdKey, value := binding.tenantId },
    { name := intentIdKey, value := binding.intentId }]

/-- A list of note attributes takes a binding just if it carries no other. -/
theorem encodeToShopifyNoteAttributes_eq_ok {out : List ShopifyNoteAttribute}
    (hbinding : binding.NonBlank) :
    encodeToShopifyNoteAttributes binding (existing.map ShopifyNoteAttribute.toMapping) = .ok out ↔
      (∀ attr ∈ existing, binding.stripped.Agrees attr.name attr.value) ∧
        (existing.filter fun attr => !isBindingKey attr.name) ++ binding.stripped.attributes =
          out := by
  unfold encodeToShopifyNoteAttributes
  rw [normalizeCommerceBinding_eq hbinding, except_ok_bind, except_bind_eq_ok]
  simp only [mapM_keepAttribute_eq_ok, except_pure_eq_ok]
  constructor
  · rintro ⟨kept, ⟨hagrees, rfl⟩, rfl⟩
    exact ⟨hagrees, by rw [flatten_kept]; rfl⟩
  · rintro ⟨hagrees, rfl⟩
    exact ⟨_, ⟨hagrees, rfl⟩, by rw [flatten_kept]; rfl⟩

/-! ### Reading note attributes -/

theorem readNoteAttribute_toPy : readNoteAttribute found attr.toPy = (do
    let tenantId ← foundValue tenantIdKey attr.name attr.value found.1
    let intentId ← foundValue intentIdKey attr.name attr.value found.2
    return (tenantId, intentId)) := by
  have hmapping : OrderedDict.ofList attr.toMapping.items = attr.toMapping :=
    OrderedDict.ofList_items _
  unfold readNoteAttribute ShopifyNoteAttribute.toPy PyValue.getItem
  dsimp only
  rw [hmapping, getValue_toMapping.1, getValue_toMapping.2]
  rfl

theorem readNoteAttribute_other (hother : isBindingKey attr.name = false) :
    readNoteAttribute found attr.toPy = .ok found := by
  simp only [isBindingKey, Bool.or_eq_false_iff, decide_eq_false_iff_not] at hother
  rw [readNoteAttribute_toPy]
  simp [foundValue, hother.1, hother.2, except_ok_bind, pure, Except.pure]

theorem foldlM_others (hothers : ∀ attr ∈ existing, isBindingKey attr.name = false) :
    (existing.map ShopifyNoteAttribute.toPy).foldlM readNoteAttribute found = .ok found := by
  induction existing with
  | nil => rfl
  | cons attr existing ih =>
      obtain ⟨hattr, hothers⟩ := List.forall_mem_cons.mp hothers
      rw [List.map_cons, List.foldlM_cons, readNoteAttribute_other hattr]
      exact ih hothers

theorem readNoteAttribute_tenant (hname : attr.name = tenantIdKey) (hfirst : found.1 = none) :
    readNoteAttribute found attr.toPy = .ok (some attr.value, found.2) := by
  rw [readNoteAttribute_toPy, hname, hfirst]
  simp [foundValue, tenantIdKey_ne_intentIdKey, except_ok_bind, pure, Except.pure]

theorem readNoteAttribute_intent (hname : attr.name = intentIdKey) (hfirst : found.2 = none) :
    readNoteAttribute found attr.toPy = .ok (found.1, some attr.value) := by
  rw [readNoteAttribute_toPy, hname, hfirst]
  simp [foundValue, tenantIdKey_ne_intentIdKey.symm, except_ok_bind, pure, Except.pure]

def foundIn (existing : List ShopifyNoteAttribute) (key : String) : Option String :=
  (existing.find? fun attr => attr.name = key).map ShopifyNoteAttribute.value

theorem foundIn_cons (key : String) : foundIn (attr :: existing) key =
    if attr.name = key then some attr.value else foundIn existing key := by
  by_cases hname : attr.name = key
  · simp [foundIn, hname]
  · simp [foundIn, hname]

theorem foundIn_eq_none {key : String} (hfresh : ∀ attr ∈ existing, attr.name ≠ key) :
    foundIn existing key = none := by
  simpa [foundIn] using hfresh

/-- Under distinct names no value is met by another. -/
theorem foldlM_distinct (hnodup : (existing.map ShopifyNoteAttribute.name).Nodup)
    (htenant : ∀ attr ∈ existing, attr.name = tenantIdKey → found.1 = none)
    (hintent : ∀ attr ∈ existing, attr.name = intentIdKey → found.2 = none) :
    (existing.map ShopifyNoteAttribute.toPy).foldlM readNoteAttribute found =
      .ok ((foundIn existing tenantIdKey).or found.1,
        (foundIn existing intentIdKey).or found.2) := by
  induction existing generalizing found with
  | nil => rfl
  | cons attr existing ih =>
      obtain ⟨hfresh, hnodup⟩ := List.nodup_cons.mp hnodup
      obtain ⟨hattrTenant, htenant⟩ := List.forall_mem_cons.mp htenant
      obtain ⟨hattrIntent, hintent⟩ := List.forall_mem_cons.mp hintent
      have hnames : ∀ other ∈ existing, other.name ≠ attr.name := fun other hother heq =>
        hfresh (heq ▸ List.mem_map_of_mem hother)
      rw [List.map_cons, List.foldlM_cons, foundIn_cons, foundIn_cons]
      by_cases hname : attr.name = tenantIdKey
      · rw [hname] at hnames
        have hother : attr.name ≠ intentIdKey := hname ▸ tenantIdKey_ne_intentIdKey
        have hrest := @ih (some attr.value, found.2) hnodup
          (fun other hmem heq => absurd heq (hnames other hmem)) hintent
        rw [readNoteAttribute_tenant hname (hattrTenant hname), except_ok_bind, hrest,
          foundIn_eq_none hnames, if_pos hname, if_neg hother]
        rfl
      · by_cases hother : attr.name = intentIdKey
        · rw [hother] at hnames
          have hrest := @ih (found.1, some attr.value) hnodup htenant
            fun other hmem heq => absurd heq (hnames other hmem)
          rw [readNoteAttribute_intent hother (hattrIntent hother), except_ok_bind, hrest,
            foundIn_eq_none hnames, if_neg hname, if_pos hother]
          rfl
        · have hkey : isBindingKey attr.name = false := by simp [isBindingKey, hname, hother]
          rw [readNoteAttribute_other hkey, except_ok_bind, ih hnodup htenant hintent,
            if_neg hname, if_neg hother]

theorem decodeFromShopifyNoteAttributes_distinct
    (hnodup : (existing.map ShopifyNoteAttribute.name).Nodup) :
    decodeFromShopifyNoteAttributes (.list (existing.map ShopifyNoteAttribute.toPy)) =
      bindingOf (foundIn existing tenantIdKey, foundIn existing intentIdKey) := by
  unfold decodeFromShopifyNoteAttributes
  dsimp only
  rw [foldlM_distinct hnodup (fun _ _ _ => rfl) (fun _ _ _ => rfl), except_ok_bind,
    Option.or_none, Option.or_none]
  unfold bindingOf
  split <;> rfl

theorem decode_appended {others : List ShopifyNoteAttribute} (hbinding : binding.NonBlank)
    (hothers : ∀ attr ∈ others, isBindingKey attr.name = false) :
    decodeFromShopifyNoteAttributes
        (.list ((others ++ binding.stripped.attributes).map ShopifyNoteAttribute.toPy)) =
      .ok (some binding.stripped) := by
  have hnodup : (binding.stripped.attributes.map ShopifyNoteAttribute.name).Nodup := by
    simp [CommerceBinding.attributes, tenantIdKey_ne_intentIdKey]
  have halone := decodeFromShopifyNoteAttributes_distinct hnodup
  unfold decodeFromShopifyNoteAttributes at halone ⊢
  dsimp only at halone ⊢
  rw [List.map_append, List.foldlM_append, foldlM_others hothers, except_ok_bind, halone]
  simp [CommerceBinding.attributes, foundIn_cons, tenantIdKey_ne_intentIdKey,
    bindingOf_stripped hbinding]

theorem others_filter : ∀ attr ∈ existing.filter fun attr => !isBindingKey attr.name,
    isBindingKey attr.name = false := by
  intro attr hattr
  simpa using (List.mem_filter.mp hattr).2

theorem agrees_attributes : ∀ attr ∈ binding.attributes, binding.Agrees attr.name attr.value := by
  simp [CommerceBinding.attributes, CommerceBinding.Agrees, tenantIdKey_ne_intentIdKey,
    tenantIdKey_ne_intentIdKey.symm]

theorem filter_appended {others : List ShopifyNoteAttribute}
    (hothers : ∀ attr ∈ others, isBindingKey attr.name = false) :
    ((others ++ binding.attributes).filter fun attr => !isBindingKey attr.name) = others := by
  rw [List.filter_append, List.filter_eq_self.mpr (by simpa using hothers)]
  simp [CommerceBinding.attributes, isBindingKey]

theorem encode_appended {others : List ShopifyNoteAttribute} (hbinding : binding.NonBlank)
    (hothers : ∀ attr ∈ others, isBindingKey attr.name = false) :
    encodeToShopifyNoteAttributes binding
        ((others ++ binding.stripped.attributes).map ShopifyNoteAttribute.toMapping) =
      .ok (others ++ binding.stripped.attributes) := by
  refine (encodeToShopifyNoteAttributes_eq_ok hbinding).mpr ⟨?_, ?_⟩
  · intro attr hattr
    rcases List.mem_append.mp hattr with hother | hcarried
    · exact agrees_of_other (hothers attr hother)
    · exact agrees_attributes attr hcarried
  · rw [filter_appended hothers]

end Shopify

/-! ### An order is never rebound -/

section Rebound

variable {binding other : CommerceBinding} {found : Option String × Option String}

/-- Where all that is found agrees with a binding, no other is read. -/
theorem eq_of_bindingOf (hbinding : binding.NonBlank)
    (htenant : ∀ value ∈ found.1, value = binding.stripped.tenantId)
    (hintent : ∀ value ∈ found.2, value = binding.stripped.intentId)
    (hother : bindingOf found = .ok (some other)) : other = binding.stripped := by
  obtain ⟨tenantId, intentId⟩ := found
  cases tenantId with
  | none => cases hother
  | some tenantId =>
      cases intentId with
      | none => cases hother
      | some intentId =>
          rw [htenant tenantId rfl, hintent intentId rfl, bindingOf_stripped hbinding] at hother
          exact (Option.some.inj (Except.ok.inj hother)).symm

theorem eq_of_decodeFromStripeMetadata {existing : OrderedDict String String}
    (hbinding : binding.NonBlank)
    (hagrees : ∀ item ∈ existing.items, binding.stripped.Agrees item.1 item.2)
    (hother : decodeFromStripeMetadata (existing.mapValues fun _ value => .str value) =
      .ok (some other)) : other = binding.stripped := by
  obtain ⟨htenant, hintent⟩ := agrees_items_iff.mp hagrees
  rw [decodeFromStripeMetadata_eq] at hother
  exact eq_of_bindingOf hbinding htenant hintent hother

theorem foundValue_agrees {key name value bound : String} {found next : Option String}
    (hfound : ∀ value ∈ found, value = bound) (hvalue : name = key → value = bound)
    (hnext : foundValue key name value found = .ok next) : ∀ value ∈ next, value = bound := by
  unfold foundValue at hnext
  split at hnext
  next hname =>
    have hread : next = some value := by
      cases found with
      | none => exact (Except.ok.inj hnext).symm
      | some earlier =>
          obtain ⟨-, -, hnext⟩ := except_bind_eq_ok.mp hnext
          exact (Except.ok.inj hnext).symm
    rw [hread]
    intro read hmem
    rw [← Option.some.inj hmem]
    exact hvalue hname
  next =>
    rw [← Except.ok.inj hnext]
    exact hfound

theorem eq_of_decodeFromShopifyNoteAttributes {existing : List ShopifyNoteAttribute}
    (hbinding : binding.NonBlank)
    (hagrees : ∀ attr ∈ existing, binding.stripped.Agrees attr.name attr.value)
    (hother : decodeFromShopifyNoteAttributes (.list (existing.map ShopifyNoteAttribute.toPy)) =
      .ok (some other)) : other = binding.stripped := by
  unfold decodeFromShopifyNoteAttributes at hother
  obtain ⟨found, hloop, hother⟩ := except_bind_eq_ok.mp hother
  have hfound := except_foldlM_invariant
    (fun found : Option String × Option String =>
      (∀ value ∈ found.1, value = binding.stripped.tenantId) ∧
        ∀ value ∈ found.2, value = binding.stripped.intentId) ?_ ⟨by simp, by simp⟩ hloop
  · refine eq_of_bindingOf hbinding hfound.1 hfound.2 ?_
    rw [← hother]
    unfold bindingOf
    split <;> rfl
  · intro state entry hentry hstate next hnext
    obtain ⟨attr, hattr, rfl⟩ := List.mem_map.mp hentry
    rw [readNoteAttribute_toPy] at hnext
    obtain ⟨tenantId, htenant, hnext⟩ := except_bind_eq_ok.mp hnext
    obtain ⟨intentId, hintent, hnext⟩ := except_bind_eq_ok.mp hnext
    cases hnext
    exact ⟨foundValue_agrees hstate.1 (hagrees attr hattr).1 htenant,
      foundValue_agrees hstate.2 (hagrees attr hattr).2 hintent⟩

end Rebound

/-! ### Carriers -/

/-- Something of an order that takes a binding, and what it says by name. -/
structure CommerceCarrier (α : Type) where
  encode : CommerceBinding → α → Except CommerceBindingError α
  decode : α → Except CommerceBindingError (Option CommerceBinding)
  fields : α → List (String × String)

def stripeCarrier : CommerceCarrier (OrderedDict String String) where
  encode := encodeToStripeMetadata
  decode metadata := decodeFromStripeMetadata (metadata.mapValues fun _ value => .str value)
  fields := OrderedDict.items

def shopifyCarrier : CommerceCarrier (List ShopifyNoteAttribute) where
  encode binding attributes :=
    encodeToShopifyNoteAttributes binding (attributes.map ShopifyNoteAttribute.toMapping)
  decode attributes :=
    decodeFromShopifyNoteAttributes (.list (attributes.map ShopifyNoteAttribute.toPy))
  fields attributes := attributes.map fun attr => (attr.name, attr.value)

/-- What the carrier does with a binding, whatever it said before. -/
structure CommerceCarrier.Faithful {α : Type} (carrier : CommerceCarrier α)
    (binding : CommerceBinding) : Prop where
  accepts : ∀ existing, (∃ out, carrier.encode binding existing = .ok out) ↔
    ∀ field ∈ carrier.fields existing, binding.stripped.Agrees field.1 field.2
  decodes : ∀ existing out, carrier.encode binding existing = .ok out →
    carrier.decode out = .ok (some binding.stripped)
  keeps : ∀ existing out, carrier.encode binding existing = .ok out →
    (carrier.fields out).filter (fun field => !isBindingKey field.1) =
      (carrier.fields existing).filter fun field => !isBindingKey field.1
  settles : ∀ existing out, carrier.encode binding existing = .ok out →
    carrier.encode binding out = .ok out
  neverRebinds : ∀ existing other, carrier.decode existing = .ok (some other) →
    other ≠ binding.stripped → ∀ out, carrier.encode binding existing ≠ .ok out

theorem stripeCarrier_faithful {binding : CommerceBinding} (hbinding : binding.NonBlank) :
    stripeCarrier.Faithful binding where
  accepts existing := by
    constructor
    · rintro ⟨out, hout⟩
      exact ((encodeToStripeMetadata_eq_ok hbinding).mp hout).1
    · intro hagrees
      exact ⟨_, (encodeToStripeMetadata_eq_ok hbinding).mpr ⟨hagrees, rfl⟩⟩
  decodes existing out hout := decode_encoded hbinding hout
  keeps existing out hout := others_encoded hbinding hout
  settles existing out hout := encode_encoded hbinding hout
  neverRebinds existing other hother hne out hout :=
    hne (eq_of_decodeFromStripeMetadata hbinding
      ((encodeToStripeMetadata_eq_ok hbinding).mp hout).1 hother)

theorem shopifyCarrier_faithful {binding : CommerceBinding} (hbinding : binding.NonBlank) :
    shopifyCarrier.Faithful binding where
  accepts existing := by
    rw [shopifyCarrier, List.forall_mem_map]
    constructor
    · rintro ⟨out, hout⟩
      exact ((encodeToShopifyNoteAttributes_eq_ok hbinding).mp hout).1
    · intro hagrees
      exact ⟨_, (encodeToShopifyNoteAttributes_eq_ok hbinding).mpr ⟨hagrees, rfl⟩⟩
  decodes existing out hout := by
    obtain ⟨-, rfl⟩ := (encodeToShopifyNoteAttributes_eq_ok hbinding).mp hout
    exact decode_appended hbinding others_filter
  keeps existing out hout := by
    obtain ⟨-, rfl⟩ := (encodeToShopifyNoteAttributes_eq_ok hbinding).mp hout
    have hkept : ((existing.filter fun attr => !isBindingKey attr.name) ++
        binding.stripped.attributes).filter (fun attr => !isBindingKey attr.name) = _ :=
      filter_appended others_filter
    rw [shopifyCarrier, List.filter_map, List.filter_map]
    exact congrArg _ hkept
  settles existing out hout := by
    obtain ⟨-, rfl⟩ := (encodeToShopifyNoteAttributes_eq_ok hbinding).mp hout
    exact encode_appended hbinding others_filter
  neverRebinds existing other hother hne out hout :=
    hne (eq_of_decodeFromShopifyNoteAttributes hbinding
      ((encodeToShopifyNoteAttributes_eq_ok hbinding).mp hout).1 hother)

/-- The metadata as a list of attributes, whose names are then distinct. -/
def attributesOf (metadata : OrderedDict String String) : List ShopifyNoteAttribute :=
  metadata.items.map fun item => { name := item.1, value := item.2 }

theorem decode_attributesOf (metadata : OrderedDict String String) :
    shopifyCarrier.decode (attributesOf metadata) = stripeCarrier.decode metadata := by
  have hnames : (attributesOf metadata).map ShopifyNoteAttribute.name = metadata.keys := by
    simp [attributesOf, OrderedDict.keys]
  have hfound (key : String) : foundIn (attributesOf metadata) key = metadata.get? key := by
    rw [foundIn, attributesOf, List.find?_map, Option.map_map]
    rfl
  have hnodup : ((attributesOf metadata).map ShopifyNoteAttribute.name).Nodup :=
    hnames ▸ metadata.nodup
  have hread := decodeFromShopifyNoteAttributes_distinct hnodup
  rw [hfound, hfound] at hread
  exact hread.trans decodeFromStripeMetadata_eq.symm

/-- Both carriers hold a binding faithfully, and on distinct names they take and read the same. -/
theorem carriers_faithful {binding : CommerceBinding} (hbinding : binding.NonBlank) :
    stripeCarrier.Faithful binding ∧ shopifyCarrier.Faithful binding ∧
      ∀ metadata : OrderedDict String String,
        ((∃ out, stripeCarrier.encode binding metadata = .ok out) ↔
          ∃ out, shopifyCarrier.encode binding (attributesOf metadata) = .ok out) ∧
        shopifyCarrier.decode (attributesOf metadata) = stripeCarrier.decode metadata := by
  have hstripe := stripeCarrier_faithful hbinding
  have hshopify := shopifyCarrier_faithful hbinding
  refine ⟨hstripe, hshopify, fun metadata => ⟨?_, decode_attributesOf metadata⟩⟩
  have hfields : shopifyCarrier.fields (attributesOf metadata) = stripeCarrier.fields metadata := by
    simp [shopifyCarrier, stripeCarrier, attributesOf, Function.comp_def]
  rw [hstripe.accepts, hshopify.accepts, hfields]

theorem carriers_faithful_spaced :
    shopifyCarrier.encode { tenantId := " tenant-a", intentId := "intent-a" }
        [{ name := "tenant_id", value := "tenant-a" }, { name := "gift", value := "yes" },
          { name := "tenant_id", value := "tenant-a" }] =
      .ok [{ name := "gift", value := "yes" }, { name := "tenant_id", value := "tenant-a" },
        { name := "paybond_intent_id", value := "intent-a" }] ∧
    ∀ out, shopifyCarrier.encode { tenantId := " tenant-a", intentId := "intent-a" }
      [{ name := "tenant_id", value := "tenant-b" },
        { name := "paybond_intent_id", value := "intent-a" }] ≠ .ok out := by
  have hbinding : CommerceBinding.NonBlank { tenantId := " tenant-a", intentId := "intent-a" } :=
    ⟨by decide +kernel, by decide +kernel⟩
  obtain ⟨-, hshopify, -⟩ := carriers_faithful hbinding
  have hother : shopifyCarrier.decode [{ name := "tenant_id", value := "tenant-b" },
      { name := "paybond_intent_id", value := "intent-a" }] =
        .ok (some { tenantId := "tenant-b", intentId := "intent-a" }) := by
    decide +kernel
  exact ⟨by decide +kernel, hshopify.neverRebinds _ _ hother (by decide +kernel)⟩

end PaybondKit.Commerce
