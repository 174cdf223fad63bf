import PaybondKit.Agent.Registry
import PaybondKit.Foundation.PyCall

/-!
# The arguments that the callable adapters authorize

CrewAI, Pydantic AI and Google ADK call a tool as a Python function. Their adapters name
the values of the call for the interceptor, from the keywords or from the signature of the
tool, and then call the tool itself. What is authorized is what is called when every value
is named after the parameter that receives it, and the tool receives the call as it is.
-/

namespace PaybondKit.Adapters

open Agent

/-- A value that a framework passes to a tool: data, an ADK `ToolContext`, or another object. -/
inductive CallValue where
  | data (value : PyValue)
  | toolContext (functionCallId : PyValue)
  | object (id : ℕ)

namespace CallValue

/-- `type(value).__name__ == "ToolContext"`. -/
def isToolContext : CallValue → Bool
  | .toolContext _ => true
  | _ => false

/-- The items of a `dict`. -/
def dict? : CallValue → Option (OrderedDict String CallValue)
  | .data (.dict items) => some ((OrderedDict.ofList items).mapValues fun _ => .data)
  | _ => none

/-- The `function_call_id` of a context, unless it is blank. -/
def functionCallId? : CallValue → Option String
  | .toolContext (.str callId) => truthyStr (some (pyStrip callId))
  | _ => none

/-- An object is neither a number nor a dictionary. -/
def toPyValue : CallValue → PyValue
  | .data value => value
  | _ => .str ""

end CallValue

/-- The dictionary that stands for the arguments: names with values, or `{"args": [...]}`. -/
inductive GivenArguments where
  | named (items : OrderedDict String CallValue)
  | positional (args : List CallValue)

namespace GivenArguments

def toPyValue : GivenArguments → PyValue
  | .named items => .dict (items.items.map fun item => (item.1, item.2.toPyValue))
  | .positional args => .dict [("args", .list (args.map CallValue.toPyValue))]

/-- The dictionary maps the name to the value. -/
def Maps : GivenArguments → String → CallValue → Prop
  | .named items, name, value => items.get? name = some value
  | .positional args, name, value =>
      name = "args" ∧ ∃ items, value = .data (.list items) ∧ args = items.map .data

end GivenArguments

/-- The arguments given to the interceptor, and the call that the original handler receives. -/
structure GuardedCall where
  given : GivenArguments
  handler : Call CallValue

/-! ## Naming the values -/

/-- `{parameter.name: value for parameter, value in zip(parameters, args)}`, when there is one
value for each parameter. The signature may be out of reach. -/
def fillParameters (parameters : Option (List Parameter)) (args : List CallValue) :
    Option (OrderedDict String CallValue) :=
  parameters.bind fun parameters =>
    if parameters.length = args.length then
      some (.ofList ((parameters.map (·.name)).zip args))
    else none

/-- `dict(args[0])` for a single dictionary. -/
def singleDict? : List CallValue → Option (OrderedDict String CallValue)
  | [value] => value.dict?
  | _ => none

/-- The values named by the parameters, else the single dictionary, else a list. -/
def nameByPosition (parameters : Option (List Parameter)) (args : List CallValue) :
    GivenArguments :=
  match (fillParameters parameters args).or (singleDict? args) with
  | some items => .named items
  | none => .positional args

namespace Crewai

variable (signature : Option Signature) (call : Call CallValue)

/-- `_arguments_from_callable`. -/
def argumentsFromCallable : GivenArguments :=
  if call.kwargs.items ≠ [] then .named call.kwargs
  else if call.args = [] then .named .empty
  else nameByPosition (signature.map (·.named)) call.args

/-- `_wrap_callable_target`, for plain and coroutine functions alike. -/
def wrapCallableTarget : GuardedCall where
  given := argumentsFromCallable signature call
  handler := call

/-- `_wrap_base_tool_method`: the original method is bound already, and receives the tool
once more. -/
def wrapBaseToolMethod (tool : ℕ) : GuardedCall where
  given := argumentsFromCallable signature call
  handler := { call with args := .object tool :: call.args }

end Crewai

namespace PydanticAi

variable (signature : Option Signature) (call : Call CallValue)

/-- `_arguments_from_callable`. -/
def argumentsFromCallable (skipFirst : Bool) : GivenArguments :=
  if call.kwargs.items ≠ [] then .named call.kwargs
  else
    let skipped := if skipFirst then 1 else 0
    let effectiveArgs := call.args.drop skipped
    if effectiveArgs = [] then .named .empty
    else nameByPosition (signature.map (·.named.drop skipped)) effectiveArgs

def wrapCallableTarget (takesCtx : Bool) : GuardedCall where
  given := argumentsFromCallable signature call takesCtx
  handler := call

end PydanticAi

namespace GoogleAdk

variable (signature : Option Signature) (call : Call CallValue)

/-- `_arguments_from_callable`: a single dictionary comes before the signature. -/
def argumentsFromCallable : GivenArguments :=
  if call.kwargs.items ≠ [] then
    .named (call.kwargs.filter fun key value => key ≠ "tool_context" && !value.isToolContext)
  else if call.args = [] then .named .empty
  else
    match singleDict? call.args with
    | some items => .named items
    | none =>
        match fillParameters (signature.map (·.named)) call.args with
        | some items => .named (items.filter fun key _ => key ≠ "tool_context")
        | none => .positional call.args

/-- `_call_original_tool`: contexts are not forwarded to a tool that does not declare one. -/
def callOriginalTool : Call CallValue :=
  match signature with
  | none => call
  | some signature =>
      let acceptsContext := "tool_context" ∈ signature.names ||
        signature.parameters.any (·.kind = .varKeyword)
      let acceptsVarPositional := signature.parameters.any (·.kind = .varPositional)
      if acceptsContext then call
      else
        { args := if acceptsVarPositional then call.args
                  else call.args.filter fun value => !value.isToolContext
          kwargs := call.kwargs.filter fun key value =>
            key ≠ "tool_context" && !value.isToolContext }

/-- `_tool_call_id_from_invocation`. -/
def toolCallIdFromInvocation (uuid : String) : String :=
  let candidates := (call.kwargs.get? "tool_context").toList ++
    call.kwargs.values.filter (·.isToolContext) ++ call.args.filter (·.isToolContext)
  (candidates.findSome? CallValue.functionCallId?).getD uuid

def wrapCallableTarget : GuardedCall where
  given := argumentsFromCallable signature call
  handler := callOriginalTool signature call

end GoogleAdk

/-! ## What is authorized is what is called -/

/-- How an adapter wraps a target. -/
inductive ArgumentAdapter where
  | crewaiFunction
  | crewaiMethod (tool : ℕ)
  | pydanticAi (takesCtx : Bool)
  | googleAdk
  deriving DecidableEq, Repr

namespace ArgumentAdapter

variable (adapter : ArgumentAdapter) (signature : Signature) (call : Call CallValue)

def guardedCall : GuardedCall :=
  match adapter with
  | .crewaiFunction => Crewai.wrapCallableTarget signature call
  | .crewaiMethod tool => Crewai.wrapBaseToolMethod signature call tool
  | .pydanticAi takesCtx => PydanticAi.wrapCallableTarget signature call takesCtx
  | .googleAdk => GoogleAdk.wrapCallableTarget signature call

/-- A context parameter with its value: the first parameter of a Pydantic AI tool that takes
the context, and the contexts of ADK. -/
def IsContext (item : String × CallValue) : Prop :=
  match adapter with
  | .pydanticAi true => signature.positionalNames.head? = some item.1
  | .googleAdk => item.1 = "tool_context" ∨ item.2.isToolContext = true
  | _ => False

/-- The interceptor is given every value that is passed, but for contexts, under the name of
its parameter, and the original handler receives the call. -/
structure AuthorizesWhatItCalls : Prop where
  named : ∀ item ∈ signature.passed call, ¬adapter.IsContext signature item →
    (adapter.guardedCall signature call).given.Maps item.1 item.2
  handler : (adapter.guardedCall signature call).handler = call

/-- No value but contexts is passed by position, or nothing is passed by keyword, there is one
value for each parameter, and ADK does not take the only one for a dictionary of arguments. -/
def NamesPositions : Prop :=
  (∀ item ∈ signature.passedByPosition call, adapter.IsContext signature item) ∨
    call.kwargs.items = [] ∧ signature.parameters.length = call.args.length ∧
      (adapter = .googleAdk → singleDict? call.args = none)

/-- The adapter does not call a bound method with its tool once more, nor keep a context from a
tool that declares no `tool_context`. -/
def ForwardsCall : Prop :=
  match adapter with
  | .crewaiMethod _ => False
  | .googleAdk => "tool_context" ∈ signature.names ∨
      ∀ value ∈ call.args ++ call.kwargs.values, value.isToolContext = false
  | _ => True

end ArgumentAdapter

section Naming

variable {signature : Signature} {call : Call CallValue} {item : String × CallValue}

theorem mem_kwargs_of_maps (hmaps : (GivenArguments.named call.kwargs).Maps item.1 item.2) :
    item.1 ∈ call.kwargs.keys :=
  List.mem_map_of_mem (OrderedDict.get?_eq_some_iff.mp hmaps)

/-- No value is an item of a dictionary of its own items. -/
theorem not_maps_singleDict {items : OrderedDict String CallValue}
    (hsingle : singleDict? call.args = some items) (hvalue : item.2 ∈ call.args) :
    ¬(GivenArguments.named items).Maps item.1 item.2 := by
  intro hmaps
  unfold singleDict? at hsingle
  split at hsingle
  next value hargs =>
    rw [hargs, List.mem_singleton] at hvalue
    unfold CallValue.dict? at hsingle
    split at hsingle
    next pairs =>
      cases hsingle
      have hget : (OrderedDict.ofList pairs).get? item.1 = some (.dict pairs) := by
        have hmapped := hmaps
        rw [GivenArguments.Maps, OrderedDict.get?_mapValues, Option.map_eq_some_iff] at hmapped
        obtain ⟨stored, hstored, hdata⟩ := hmapped
        rw [hvalue] at hdata
        rw [hstored, CallValue.data.inj hdata]
      have hmem := OrderedDict.mem_of_mem_ofList (OrderedDict.get?_eq_some_iff.mp hget)
      have hsize := List.sizeOf_lt_of_mem hmem
      simp only [Prod.mk.sizeOf_spec, PyValue.dict.sizeOf_spec] at hsize
      omega
    next => cases hsingle
  next => cases hsingle

/-- No value is an item of the list of the values. -/
theorem not_maps_positional {args : List CallValue} (hvalue : item.2 ∈ args) :
    ¬(GivenArguments.positional args).Maps item.1 item.2 := by
  rintro ⟨-, items, hlist, rfl⟩
  obtain ⟨value, hmem, hdata⟩ := List.mem_map.mp hvalue
  rw [hlist] at hdata
  have hsize := List.sizeOf_lt_of_mem hmem
  rw [CallValue.data.inj hdata, PyValue.list.sizeOf_spec] at hsize
  omega

/-- Values that fill the parameters are named after them. -/
theorem fillParameters_eq {parameters : List Parameter} {args : List CallValue}
    (hfill : parameters.length = args.length) :
    fillParameters (some parameters) args =
      some (.ofList ((parameters.map (·.name)).zip args)) :=
  if_pos hfill

theorem length_of_fillParameters {parameters : List Parameter} {args : List CallValue}
    {items : OrderedDict String CallValue}
    (hfill : fillParameters (some parameters) args = some items) :
    parameters.length = args.length := by
  by_contra hlength
  rw [fillParameters, Option.bind_some, if_neg hlength] at hfill
  cases hfill

/-- A parameter that receives a value by position is found in the filled signature. -/
theorem get?_zip {names : List String} {args : List CallValue} (hnames : names.Nodup)
    (hitem : item ∈ names.zip args) :
    (OrderedDict.ofList (names.zip args)).get? item.1 = some item.2 := by
  have hkeys := map_fst_zip_sublist names args
  exact OrderedDict.get?_ofList_of_mem (hnames.sublist hkeys) hitem

/-- Naming by position finds a value that is passed exactly when the parameters are filled. -/
theorem nameByPosition_maps_iff {parameters : List Parameter} {args : List CallValue}
    (hnames : (parameters.map (·.name)).Nodup) (hvalue : item.2 ∈ args)
    (hitem : parameters.length = args.length → item ∈ (parameters.map (·.name)).zip args) :
    (nameByPosition (some parameters) args).Maps item.1 item.2 ↔
      parameters.length = args.length := by
  constructor
  · intro hmaps
    by_contra hlength
    have hnone : fillParameters (some parameters) args = none := if_neg hlength
    unfold nameByPosition at hmaps
    rw [hnone, Option.none_or] at hmaps
    cases hsingle : singleDict? args with
    | none =>
        rw [hsingle] at hmaps
        exact not_maps_positional hvalue hmaps
    | some items =>
        rw [hsingle] at hmaps
        exact @not_maps_singleDict ⟨args, .empty⟩ _ _ hsingle hvalue hmaps
  · intro hlength
    rw [nameByPosition, fillParameters_eq hlength]
    exact get?_zip hnames (hitem hlength)

end Naming

namespace ArgumentAdapter

variable {adapter : ArgumentAdapter} {signature : Signature} {call : Call CallValue}
variable {item : String × CallValue}

/-- What is passed by keyword is given under the keyword. -/
theorem maps_keyword (hitem : item ∈ call.kwargs.items)
    (hcontext : ¬adapter.IsContext signature item) :
    (adapter.guardedCall signature call).given.Maps item.1 item.2 := by
  have hkwargs : call.kwargs.items ≠ [] := List.ne_nil_of_mem hitem
  have hget : call.kwargs.get? item.1 = some item.2 := OrderedDict.get?_eq_some_iff.mpr hitem
  cases adapter with
  | crewaiFunction =>
      rw [guardedCall, Crewai.wrapCallableTarget, Crewai.argumentsFromCallable, if_pos hkwargs]
      exact hget
  | crewaiMethod tool =>
      rw [guardedCall, Crewai.wrapBaseToolMethod, Crewai.argumentsFromCallable, if_pos hkwargs]
      exact hget
  | pydanticAi takesCtx =>
      rw [guardedCall, PydanticAi.wrapCallableTarget, PydanticAi.argumentsFromCallable,
        if_pos hkwargs]
      exact hget
  | googleAdk =>
      obtain ⟨hname, hvalue⟩ := not_or.mp hcontext
      rw [guardedCall, GoogleAdk.wrapCallableTarget, GoogleAdk.argumentsFromCallable,
        if_pos hkwargs, GivenArguments.Maps, OrderedDict.get?_filter, hget]
      simp [Option.filter, hname, hvalue]

theorem crewai_maps_iff (hbinds : signature.Binds call)
    (hitem : item ∈ signature.passedByPosition call) :
    (Crewai.argumentsFromCallable signature call).Maps item.1 item.2 ↔
      call.kwargs.items = [] ∧ signature.parameters.length = call.args.length := by
  have hvalue := Signature.mem_args_of_mem_passedByPosition hitem
  by_cases hkwargs : call.kwargs.items = []
  · have hargs : call.args ≠ [] := List.ne_nil_of_mem hvalue
    rw [Crewai.argumentsFromCallable, if_neg (not_not.mpr hkwargs), if_neg hargs, Option.map_some,
      Signature.named_eq hbinds.named, nameByPosition_maps_iff signature.nodup hvalue]
    · exact (and_iff_right hkwargs).symm
    · intro hfill
      rwa [← hbinds.positional_eq hfill]
  · rw [Crewai.argumentsFromCallable, if_pos hkwargs]
    refine iff_of_false (fun hmaps => ?_) fun h => hkwargs h.1
    exact hbinds.not_mem_keys hitem (mem_kwargs_of_maps hmaps)

/-- A value that is no context follows the context that comes first. -/
theorem mem_zip_drop {takesCtx : Bool} (hitem : item ∈ signature.passedByPosition call)
    (hcontext : ¬(pydanticAi takesCtx).IsContext signature item) :
    item ∈ (signature.positionalNames.drop (if takesCtx then 1 else 0)).zip
      (call.args.drop (if takesCtx then 1 else 0)) := by
  cases takesCtx with
  | false => exact hitem
  | true =>
      unfold Signature.passedByPosition at hitem
      unfold IsContext at hcontext
      cases hnames : signature.positionalNames with
      | nil => simp [hnames] at hitem
      | cons name names =>
          cases hargs : call.args with
          | nil => simp [hargs] at hitem
          | cons value values =>
              rw [hnames, hargs, List.zip_cons_cons, List.mem_cons] at hitem
              rw [hnames, List.head?_cons] at hcontext
              rcases hitem with rfl | hrest
              · exact absurd rfl hcontext
              · exact hrest

theorem pydanticAi_maps_iff {takesCtx : Bool} (hbinds : signature.Binds call)
    (hitem : item ∈ signature.passedByPosition call)
    (hcontext : ¬(pydanticAi takesCtx).IsContext signature item) :
    (PydanticAi.argumentsFromCallable signature call takesCtx).Maps item.1 item.2 ↔
      call.kwargs.items = [] ∧ signature.parameters.length = call.args.length := by
  by_cases hkwargs : call.kwargs.items = []
  · have hrest := mem_zip_drop hitem hcontext
    have hvalue := (List.of_mem_zip hrest).2
    have hargs : call.args.drop (if takesCtx then 1 else 0) ≠ [] := List.ne_nil_of_mem hvalue
    have hnames : ((signature.parameters.drop (if takesCtx then 1 else 0)).map (·.name)).Nodup :=
      signature.nodup.sublist ((List.drop_sublist _ _).map _)
    have hlength : (signature.parameters.drop (if takesCtx then 1 else 0)).length =
        (call.args.drop (if takesCtx then 1 else 0)).length ↔
          signature.parameters.length = call.args.length := by
      have hsome : 0 < (call.args.drop (if takesCtx then 1 else 0)).length :=
        List.length_pos_of_ne_nil hargs
      have hle := hbinds.positions
      have hsublist : signature.positional.length ≤ signature.parameters.length :=
        List.length_filter_le _ _
      rw [List.length_drop] at hsome
      rw [List.length_drop, List.length_drop]
      omega
    simp only [PydanticAi.argumentsFromCallable]
    rw [if_neg (not_not.mpr hkwargs), if_neg hargs, Option.map_some,
      Signature.named_eq hbinds.named, nameByPosition_maps_iff hnames hvalue, hlength]
    · exact (and_iff_right hkwargs).symm
    · intro hfill
      rwa [List.map_drop, ← hbinds.positional_eq (hlength.mp hfill)]
  · rw [PydanticAi.argumentsFromCallable, if_pos hkwargs]
    refine iff_of_false (fun hmaps => ?_) fun h => hkwargs h.1
    exact hbinds.not_mem_keys hitem (mem_kwargs_of_maps hmaps)

theorem googleAdk_maps_iff (hbinds : signature.Binds call)
    (hitem : item ∈ signature.passedByPosition call)
    (hcontext : ¬googleAdk.IsContext signature item) :
    (GoogleAdk.argumentsFromCallable signature call).Maps item.1 item.2 ↔
      call.kwargs.items = [] ∧ signature.parameters.length = call.args.length ∧
        singleDict? call.args = none := by
  have hvalue := Signature.mem_args_of_mem_passedByPosition hitem
  by_cases hkwargs : call.kwargs.items = []
  · have hargs : call.args ≠ [] := List.ne_nil_of_mem hvalue
    rw [GoogleAdk.argumentsFromCallable, if_neg (not_not.mpr hkwargs), if_neg hargs,
      Option.map_some, Signature.named_eq hbinds.named, and_iff_right hkwargs]
    cases hsingle : singleDict? call.args with
    | some items =>
        exact iff_of_false (not_maps_singleDict hsingle hvalue) fun h => nomatch h.2
    | none =>
        rw [and_iff_left rfl]
        by_cases hlength : signature.parameters.length = call.args.length
        · obtain ⟨hname, -⟩ := not_or.mp hcontext
          rw [fillParameters_eq hlength]
          refine iff_of_true ?_ hlength
          have hget := get?_zip signature.nodup_positionalNames hitem
          rw [Signature.positionalNames, hbinds.positional_eq hlength] at hget
          rw [GivenArguments.Maps, OrderedDict.get?_filter, hget]
          simp [Option.filter, hname]
        · have hnone : fillParameters (some signature.parameters) call.args = none :=
            if_neg hlength
          rw [hnone]
          exact iff_of_false (not_maps_positional hvalue) hlength
  · rw [GoogleAdk.argumentsFromCallable, if_pos hkwargs]
    refine iff_of_false (fun hmaps => ?_) fun h => hkwargs h.1
    have hmem := OrderedDict.get?_eq_some_iff.mp hmaps
    exact hbinds.not_mem_keys hitem (List.mem_map_of_mem (List.mem_of_mem_filter hmem))

/-- A value that is passed by position is named only when the positions are. -/
theorem maps_position_iff (hbinds : signature.Binds call)
    (hitem : item ∈ signature.passedByPosition call)
    (hcontext : ¬adapter.IsContext signature item) :
    (adapter.guardedCall signature call).given.Maps item.1 item.2 ↔
      call.kwargs.items = [] ∧ signature.parameters.length = call.args.length ∧
        (adapter = .googleAdk → singleDict? call.args = none) := by
  cases adapter with
  | crewaiFunction =>
      simpa [guardedCall, Crewai.wrapCallableTarget] using crewai_maps_iff hbinds hitem
  | crewaiMethod tool =>
      simpa [guardedCall, Crewai.wrapBaseToolMethod] using crewai_maps_iff hbinds hitem
  | pydanticAi takesCtx =>
      simpa [guardedCall, PydanticAi.wrapCallableTarget] using
        pydanticAi_maps_iff hbinds hitem hcontext
  | googleAdk =>
      simpa [guardedCall, GoogleAdk.wrapCallableTarget] using
        googleAdk_maps_iff hbinds hitem hcontext

theorem named_iff (hbinds : signature.Binds call) :
    (∀ item ∈ signature.passed call, ¬adapter.IsContext signature item →
        (adapter.guardedCall signature call).given.Maps item.1 item.2) ↔
      adapter.NamesPositions signature call := by
  constructor
  · intro hnamed
    by_cases hcontexts : ∀ item ∈ signature.passedByPosition call, adapter.IsContext signature item
    · exact .inl hcontexts
    · obtain ⟨item, hitem, hcontext⟩ : ∃ item ∈ signature.passedByPosition call,
          ¬adapter.IsContext signature item := by
        simpa using hcontexts
      have hmaps := hnamed item (List.mem_append_left _ hitem) hcontext
      exact .inr ((maps_position_iff hbinds hitem hcontext).mp hmaps)
  · rintro hpositions item hitem hcontext
    rcases List.mem_append.mp hitem with hposition | hkeyword
    · rcases hpositions with hcontexts | hfill
      · exact absurd (hcontexts item hposition) hcontext
      · exact (maps_position_iff hbinds hposition hcontext).mpr hfill
    · exact maps_keyword hkeyword hcontext

theorem callOriginalTool_eq_iff (hbinds : signature.Binds call) :
    GoogleAdk.callOriginalTool signature call = call ↔
      googleAdk.ForwardsCall signature call := by
  have hkeyword : signature.parameters.any (·.kind = .varKeyword) = false := by
    rw [List.any_eq_false]
    intro parameter hmem hkind
    have hnamed := hbinds.named parameter hmem
    simp_all [Parameter.isNamed]
  have hpositional : signature.parameters.any (·.kind = .varPositional) = false := by
    rw [List.any_eq_false]
    intro parameter hmem hkind
    have hnamed := hbinds.named parameter hmem
    simp_all [Parameter.isNamed]
  unfold ForwardsCall
  by_cases hdeclares : "tool_context" ∈ signature.names
  · simp [GoogleAdk.callOriginalTool, hdeclares]
  · have hkeys : ∀ item ∈ call.kwargs.items, item.1 ≠ "tool_context" := by
      rintro item hitem hname
      obtain ⟨parameter, hmem, -, hparameter⟩ :=
        hbinds.keywords item.1 (List.mem_map_of_mem hitem)
      refine hdeclares (List.mem_map.mpr ⟨parameter, hmem, ?_⟩)
      rw [hparameter, hname]
    simp only [GoogleAdk.callOriginalTool, hdeclares, hkeyword, hpositional, decide_false,
      Bool.or_self, Bool.false_eq_true, if_false, Call.ext_iff, List.filter_eq_self,
      OrderedDict.filter_eq_self_iff, false_or, List.forall_mem_append]
    refine and_congr (by simp) ?_
    simp only [OrderedDict.values, List.forall_mem_map]
    refine forall₂_congr fun item hitem => ?_
    simp [hkeys item hitem]

theorem handler_iff (hbinds : signature.Binds call) :
    (adapter.guardedCall signature call).handler = call ↔
      adapter.ForwardsCall signature call := by
  cases adapter with
  | crewaiFunction => exact iff_of_true rfl trivial
  | crewaiMethod tool =>
      refine iff_of_false (fun hcall => ?_) id
      have hargs : CallValue.object tool :: call.args = call.args := congrArg Call.args hcall
      exact List.cons_ne_self _ _ hargs
  | pydanticAi takesCtx => exact iff_of_true rfl trivial
  | googleAdk => exact callOriginalTool_eq_iff hbinds

end ArgumentAdapter

open ArgumentAdapter

/-- What is authorized is what is called exactly when the values passed by position fill the
signature without keywords, and the adapter forwards the call. -/
theorem authorizesWhatItCalls_iff (adapter : ArgumentAdapter) (signature : Signature)
    (call : Call CallValue) (hbinds : signature.Binds call) :
    adapter.AuthorizesWhatItCalls signature call ↔
      adapter.NamesPositions signature call ∧ adapter.ForwardsCall signature call := by
  constructor
  · intro hauthorizes
    exact ⟨(named_iff hbinds).mp hauthorizes.named, (handler_iff hbinds).mp hauthorizes.handler⟩
  · rintro ⟨hpositions, hforwards⟩
    exact ⟨(named_iff hbinds).mpr hpositions, (handler_iff hbinds).mpr hforwards⟩

/-- A spend rule reads from the given arguments what the value of the parameter holds. -/
theorem resolveJsonPath_of_maps {given : GivenArguments} {name path : String} {value : PyValue}
    {keys : List String} (hmaps : given.Maps name (.data value))
    (hpath : splitDots path = name :: keys) :
    resolveJsonPath given.toPyValue path = keys.foldl PyValue.getItem value := by
  rw [resolveJsonPath, hpath, List.foldl_cons]
  congr 1
  cases given with
  | named items =>
      have hmem := OrderedDict.get?_eq_some_iff.mp hmaps
      have hnodup : ((items.items.map fun item => (item.1, item.2.toPyValue)).map Prod.fst).Nodup := by
        simpa [Function.comp_def] using items.nodup
      have hget := OrderedDict.get?_ofList_of_mem hnodup (List.mem_map_of_mem hmem)
      simp only at hget
      rw [GivenArguments.toPyValue, PyValue.getItem, OrderedDict.getValue, hget]
      rfl
  | positional args =>
      obtain ⟨rfl, items, hlist, rfl⟩ := hmaps
      have hdata : CallValue.toPyValue ∘ CallValue.data = id := rfl
      rw [CallValue.data.inj hlist, GivenArguments.toPyValue, List.map_map, hdata, List.map_id]
      rfl

/-! ## A booking tool -/

/-- `def book(amount_cents, currency="usd")`. -/
def bookSignature : Signature where
  parameters := [{ name := "amount_cents" }, { name := "currency", hasDefault := true }]
  nodup := by decide

/-- `book(50000)`. -/
def bookCall : Call CallValue := ⟨[.data (.int 50000)], .empty⟩

/-- `book(50000, "eur")`. -/
def bookCallFilled : Call CallValue := ⟨[.data (.int 50000), .data (.str "eur")], .empty⟩

theorem authorizesWhatItCalls_iff_filled :
    bookSignature.Binds bookCallFilled ∧
      crewaiFunction.AuthorizesWhatItCalls bookSignature bookCallFilled := by
  have hbinds : bookSignature.Binds bookCallFilled := by decide
  refine ⟨hbinds, (authorizesWhatItCalls_iff crewaiFunction bookSignature bookCallFilled hbinds).mpr
    ⟨.inr ⟨rfl, rfl, fun h => nomatch h⟩, trivial⟩⟩

/-- With the currency left to its default, no amount is authorized for 500 dollars. -/
theorem crewai_hides_amount :
    ¬∀ (adapter : ArgumentAdapter) (signature : Signature) (call : Call CallValue),
      signature.Binds call → adapter.AuthorizesWhatItCalls signature call := by
  intro hauthorizes
  have hbinds : bookSignature.Binds bookCall := by decide
  have hmaps := (hauthorizes crewaiFunction bookSignature bookCall hbinds).named
    ("amount_cents", .data (.int 50000)) (List.mem_cons_self) id
  exact absurd hmaps.1 (by decide)

example : (resolveSpendCentsFromJsonPath
    (crewaiFunction.guardedCall bookSignature bookCall).given.toPyValue "amount_cents"
      "book").toOption = some none := by
  decide +kernel

end PaybondKit.Adapters
