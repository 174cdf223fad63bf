import PaybondKit.Adapters.Frameworks
import PaybondKit.Agent.Idle
import PaybondKit.Agent.Reservations
import PaybondKit.Foundation.Mentions

/-!
# What a guarded call returns

The interceptor hands on what its `execute` has returned. Three adapters decode the result of the
handler on the way in and write it out again on the way out: a call that succeeds returns what the
handler returned only where the two undo each other.
-/

namespace PaybondKit.Adapters

open Agent Coroutine

/-! ## The interceptor hands on a result -/

/-- The operation runs the handler of a tool. -/
def Invokes : Op → Prop
  | .host (.execute _) | .host (.awaitHandler _) => True
  | _ => False

/-- What `execute` has returned, by itself or awaited. -/
def executed? : Exchange Val PyExc → Option PyValue
  | ⟨.host (.execute _), .ok (.value result)⟩ => some result
  | ⟨.host (.awaitHandler _), .ok result⟩ => some result
  | _ => none

section Interceptor

variable {platform : Platform} {binding : PaybondRunBinding} {past : List (Exchange Val PyExc)}

theorem executed?_of_avoids {α : Type} {program : Routine α} {outcome : Except PyExc α}
    (havoids : program.Avoids Invokes) (hends : program.Ends past outcome) :
    past.filterMap executed? = [] := by
  refine hends.filterMap_eq_nil havoids fun exchange hother => ?_
  unfold executed?
  split
  · exact absurd trivial hother
  · exact absurd trivial hother
  · rfl

theorem not_invokes_of_resolves {op : Op} (hop : Resolves op) : ¬Invokes op := by
  unfold Invokes
  split
  all_goals first | exact hop.elim | exact id

theorem not_invokes_of_obtains {op : Op} (hop : Obtains op) : ¬Invokes op := by
  unfold Invokes
  split
  all_goals first | exact hop.elim | exact id

theorem not_invokes_of_submits {op : Op} (hop : Submits op) : ¬Invokes op := by
  unfold Invokes
  split
  all_goals first | exact hop.elim | exact id

theorem executed?_maybeAwait {invocation : Invocation} {result : PyValue}
    (hends : (maybeAwait invocation).Ends past (.ok result)) :
    past.filterMap executed? = [result] := by
  obtain ⟨answer, executing, rest, rfl, hexecuting, hrest⟩ := returns_bind.mp hends
  obtain rfl := ends_call.mp hexecuting
  cases answer with
  | value returned =>
      obtain ⟨rfl, hok⟩ := ends_ret.mp hrest
      cases hok
      rfl
  | awaitable =>
      obtain rfl := ends_call.mp hrest
      rfl

/-- A finalized execution returns what the handler has returned. -/
theorem executed?_executeAndFinalize {toolName toolCallId : String} {resolved : ResolvedCall}
    {decisionId : Option String} {startedAt : ℕ} {result : PyValue}
    (hends : (executeAndFinalize binding toolName toolCallId resolved decisionId startedAt).Ends
      past (.ok result)) : past.filterMap executed? = [result] := by
  have hfinalize : ∀ decisionId, (finalizeSpend binding toolCallId resolved.operation .consumed
      decisionId).Avoids Invokes :=
    fun _ => avoids_bind (avoids_call id) fun _ => avoids_call id
  rcases returns_tryExcept.mp hends with hbody | ⟨exception, before, after, rfl, -, hhandler⟩
  · obtain ⟨toolResult, awaiting, rest, rfl, hawaiting, hrest⟩ := returns_bind.mp hbody
    obtain ⟨endedAt, timing, rest, rfl, htiming, hrest⟩ := returns_bind.mp hrest
    obtain ⟨_, tracing, rest, rfl, htracing, hrest⟩ := returns_bind.mp hrest
    obtain ⟨_, finalizing, rest, rfl, hfinalizing, hrest⟩ := returns_bind.mp hrest
    obtain ⟨rfl, hok⟩ := ends_ret.mp hrest
    cases hok
    have htimed := executed?_of_avoids (avoids_call id) htiming
    have htraced := executed?_of_avoids (avoids_call id) htracing
    have hfinalized := executed?_of_avoids (avoids_withDecision hfinalize) hfinalizing
    simp only [List.filterMap_append, executed?_maybeAwait hawaiting, htimed, htraced, hfinalized,
      List.append_nil]
  · -- the exception is raised again, whatever the release does
    split at hhandler
    · obtain ⟨_, _, _, -, _, hraise⟩ := returns_bind.mp hhandler
      cases (ends_raise.mp hraise).2
    · cases (ends_raise.mp hhandler).2

theorem executed?_wrapSideEffecting {toolName toolCallId operation : String} {input : ToolCallInput}
    {entry : PaybondSideEffectingToolEntry} {pinnedDigest : Option String}
    {wrapped : PaybondInterceptWrapExecuteResult}
    (hends : (wrapSideEffecting platform binding toolName toolCallId input entry operation
      pinnedDigest).Ends past (.ok wrapped)) :
    past.filterMap executed? = [wrapped.toolResult] := by
  obtain ⟨resolved, resolving, rest, rfl, hresolving, hrest⟩ := returns_bind.mp hends
  obtain ⟨_, tracing, rest, rfl, htracing, hrest⟩ := returns_bind.mp hrest
  obtain ⟨authorized, authorizing, rest, rfl, hauthorizing, hrest⟩ := returns_bind.mp hrest
  obtain ⟨startedAt, starting, rest, rfl, hstarting, hrest⟩ := returns_bind.mp hrest
  obtain ⟨startedAtMs, timing, rest, rfl, htiming, hrest⟩ := returns_bind.mp hrest
  obtain ⟨toolResult, executing, reporting, rfl, hexecuting, hreporting⟩ := returns_bind.mp hrest
  have hresult : wrapped.toolResult = toolResult := by
    obtain ⟨_, _, _, -, _, hrest⟩ := returns_bind.mp hreporting
    obtain ⟨_, _, _, -, _, hrest⟩ := returns_bind.mp hrest
    obtain ⟨_, _, _, -, _, hrest⟩ := returns_bind.mp hrest
    obtain ⟨_, _, _, -, _, hrest⟩ := returns_bind.mp hrest
    cases (ends_ret.mp hrest).2
    rfl
  have hresolved := executed?_of_avoids
    (avoids_resolveSideEffectingCall fun _ => not_invokes_of_resolves) hresolving
  have htraced := executed?_of_avoids (avoids_call id) htracing
  have hauthorized := executed?_of_avoids
    (avoids_obtainAuthorization fun _ => not_invokes_of_obtains) hauthorizing
  have hstarted := executed?_of_avoids (avoids_call id) hstarting
  have htimed := executed?_of_avoids (avoids_call id) htiming
  have hreported := executed?_of_avoids
    (avoids_reportExecution (fun _ => not_invokes_of_submits) (fun _ _ => id) (fun _ => id) id)
      hreporting
  simp only [List.filterMap_append, executed?_executeAndFinalize hexecuting, hresolved, htraced,
    hauthorized, hstarted, htimed, hreported, hresult, List.append_nil, List.nil_append]

/-- An execution that succeeds hands on the one result of its `execute`. -/
theorem executed?_wrapExecute {input : ToolCallInput} {wrapped : PaybondInterceptWrapExecuteResult}
    (hends : (wrapExecute platform binding input).Ends past (.ok wrapped)) :
    past.filterMap executed? = [wrapped.toolResult] := by
  obtain ⟨_, required, rest, rfl, hrequired, hrest⟩ := returns_bind.mp hends
  obtain ⟨pinnedDigest, beginning, rest, rfl, hbeginning, hrest⟩ := returns_bind.mp hrest
  obtain ⟨body, ending, rfl, hbody, hending⟩ := returns_tryFinally.mp hrest
  obtain ⟨registry, reading, running, rfl, hreading, hrunning⟩ := returns_bind.mp hbody
  have hrequired := executed?_of_avoids (avoids_requireToolCall input) hrequired
  have hbegun := executed?_of_avoids (avoids_call id) hbeginning
  have hread := executed?_of_avoids (avoids_call id) hreading
  have hended := executed?_of_avoids (avoids_call id) hending
  have hran : running.filterMap executed? = [wrapped.toolResult] := by
    split at hrunning
    next =>
      obtain ⟨toolResult, awaiting, rest, rfl, hawaiting, hreturned⟩ := returns_bind.mp hrunning
      obtain ⟨rfl, hok⟩ := ends_ret.mp hreturned
      cases hok
      rw [List.append_nil]
      exact executed?_maybeAwait hawaiting
    next => cases (ends_raise.mp hrunning).2
    next => exact executed?_wrapSideEffecting hrunning
  simp only [List.filterMap_append, hrequired, hbegun, hread, hended, hran, List.append_nil,
    List.nil_append]

end Interceptor

/-! ## The handler of the tool -/

/-- What the handler of the tool has returned. -/
def handlerResult? : Exchange Val PyExc → Option PyValue
  | ⟨.host (.awaitHandler _), .ok result⟩ => some result
  | _ => none

theorem executed?_adaptExchange (coerce : PyValue → PyValue) (exchange : Exchange Val PyExc) :
    executed? (adaptExchange (executeClosure coerce) exchange) =
      (handlerResult? exchange).map coerce := by
  unfold handlerResult?
  split
  · rfl
  next hother =>
    obtain ⟨op, answer⟩ := exchange
    cases op with
    | access op => rfl
    | host call =>
        cases call with
        | awaitHandler invocation =>
            cases answer with
            | error exception => rfl
            | ok result => exact absurd rfl (hother invocation result)
        | _ => rfl

/-! ## Results that an adapter keeps -/

/-- The `json` module of the standard library, over the reading and the writing of floats. -/
def JsonText.stdlib (parseFloat : List Char → PyFloat) (floatText : PyFloat → JsonNumber)
    (errorText : String → String) : JsonText where
  loads text := (jsonLoads parseFloat text).elim (.error (errorText text)) .ok
  floatText := floatText

/-- What the proofs need of decoding: a blank text is not decoded, and what stands within a decoded
value is shorter than its text. -/
structure JsonText.Decodes (json : JsonText) : Prop where
  nonempty : ∀ value, json.loads "" ≠ .ok value
  shorter : ∀ text value mentioned, json.loads text = .ok value → value.Mentions mentioned →
    mentioned.length < text.length

theorem JsonText.decodes_stdlib {parseFloat : List Char → PyFloat}
    {floatText : PyFloat → JsonNumber} {errorText : String → String} :
    (JsonText.stdlib parseFloat floatText errorText).Decodes where
  nonempty value := nofun
  shorter text value mentioned hloads hmentions := by
    unfold JsonText.stdlib at hloads
    dsimp only at hloads
    cases hdecoded : jsonLoads parseFloat text with
    | none =>
        rw [hdecoded] at hloads
        cases hloads
    | some decoded =>
        rw [hdecoded] at hloads
        cases hloads
        exact length_lt_of_jsonLoads hdecoded hmentions

/-- `isinstance(value, (dict, list))`. -/
def isContainer : PyValue → Bool
  | .dict _ | .list _ => true
  | _ => false

/-- The results that the OpenAI Agents adapter keeps: numbers and booleans, and texts that are no
JSON, or JSON of a dict or a list as `json.dumps` writes it. -/
def OpenaiAgents.Keeps (json : JsonText) : PyValue → Prop
  | .str text => ∀ value, json.loads text = .ok value → isContainer value = true ∧
      json.dumps value = text
  | .none | .list _ | .dict _ => False
  | _ => True

/-- The results that the CrewAI adapter keeps: what is neither a dict nor a list, but for a text
that is JSON of a dict and not as `json.dumps` writes it. -/
def Crewai.Keeps (json : JsonText) : PyValue → Prop
  | .str text => ∀ value, json.loads text = .ok value → isDict value = true →
      json.dumps value = text
  | .list _ | .dict _ => False
  | _ => True

namespace ClaudeAgents

/-- The result offers no text to decode. -/
def Textless (result : PyValue) : Prop :=
  ∀ content, result.getItem "content" = .list content → firstText content = none

/-- A decoded text that is shown by `str`. -/
def IsShown : PyValue → Prop
  | .dict _ | .none | .str _ => False
  | _ => True

/-- The results that the Claude Agents adapter keeps. -/
inductive Keeps (platform : Platform) (json : JsonText) : PyValue → Prop where
  /-- Content without a text and without a structured part. -/
  | textless {items : List (String × PyValue)} (hcontent : "content" ∈ items.map Prod.fst)
      (hstructured : isDict ((PyValue.dict items).getItem "structuredContent") = false)
      (htextless : Textless (.dict items)) : Keeps platform json (.dict items)
  /-- A structured part and its text as `json.dumps` writes it, and nothing else. -/
  | structured {result : PyValue} {members : List (String × PyValue)}
      (hstructured : result.getItem "structuredContent" = .dict members)
      (hmembers : "content" ∉ members.map Prod.fst)
      (hsame : result.SameValue (.dict [("content", textBlock (json.dumps (.dict members))),
        ("structuredContent", .dict members)])) : Keeps platform json result
  /-- One text, of a number, a boolean or a list as `str` writes it, and nothing else. -/
  | shown {result value : PyValue} {text : String}
      (hsame : result.SameValue (.dict [("content", textBlock text)]))
      (hloads : json.loads text = .ok value) (hvalue : IsShown value)
      (htext : platform.pyStr value = text) : Keeps platform json result

end ClaudeAgents

/-! ## The two functions of an adapter undo each other -/

section Composition

variable {platform : Platform} {json : JsonText}

theorem sameValue_str {text : String} {other : PyValue} :
    (PyValue.str text).SameValue other ↔ other = .str text :=
  PyValue.sameValue_leaf rfl

theorem JsonText.coerce_of_error {keeps : PyValue → Bool} {text message : String}
    (hloads : json.loads text = .error message) : json.coerce keeps (.str text) = .str text := by
  simp only [JsonText.coerce, hloads]

theorem JsonText.coerce_of_ok {keeps : PyValue → Bool} {text : String} {value : PyValue}
    (hloads : json.loads text = .ok value) :
    json.coerce keeps (.str text) = if keeps value then value else .str text := by
  simp only [JsonText.coerce, hloads]

/-- A condition on what a text is decoded to. -/
theorem JsonText.forall_loads {text : String} {value : PyValue} {P : PyValue → Prop}
    (hloads : json.loads text = .ok value) :
    (∀ other, json.loads text = .ok other → P other) ↔ P value := by
  constructor
  · exact fun hall => hall value hloads
  · intro hvalue other hother
    cases hloads.symm.trans hother
    exact hvalue

theorem OpenaiAgents.sameValue_iff (hjson : json.Decodes) (result : PyValue) :
    result.SameValue (serializeToolResult json (coerceToolResult json result)) ↔
      Keeps json result := by
  cases result with
  | str text =>
      rw [sameValue_str]
      cases hloads : json.loads text with
      | error message =>
          refine iff_of_true ?_ fun value hvalue => ?_
          · rw [coerceToolResult, JsonText.coerce_of_error hloads]
            rfl
          · cases hloads.symm.trans hvalue
      | ok value =>
          have hshorter := hjson.shorter text value
          rw [coerceToolResult, JsonText.coerce_of_ok hloads, if_pos rfl, Keeps,
            JsonText.forall_loads hloads]
          cases value with
          | dict items => simp [serializeToolResult, isContainer]
          | list items => simp [serializeToolResult, isContainer]
          | none =>
              -- a text of nothing would be blank, and that is no JSON
              have htext : text ≠ "" := fun hblank => hjson.nonempty _ (hblank ▸ hloads)
              simpa [serializeToolResult, isContainer] using htext.symm
          | str inner =>
              have hne : inner ≠ text := by
                rintro rfl
                exact Nat.lt_irrefl _ (hshorter inner hloads .str)
              simpa [serializeToolResult, isContainer] using hne
          | _ => simp [serializeToolResult, isContainer]
  | none => exact iff_of_false (fun hsame => nomatch hsame) id
  | list items =>
      refine iff_of_false (fun hsame => ?_) id
      obtain ⟨_, hlist, -⟩ := PyValue.sameValue_list.mp hsame
      cases hlist
  | dict items =>
      refine iff_of_false (fun hsame => ?_) id
      obtain ⟨_, hdict, -⟩ := hsame
      cases hdict
  | bool value => exact iff_of_true rfl trivial
  | int value => exact iff_of_true rfl trivial
  | float value => exact iff_of_true rfl trivial

theorem Crewai.sameValue_iff (result : PyValue) :
    result.SameValue (serializeCrewaiToolResult json (coerceCrewaiToolResult json result)) ↔
      Keeps json result := by
  cases result with
  | str text =>
      rw [sameValue_str]
      cases hloads : json.loads text with
      | error message =>
          refine iff_of_true ?_ fun value hvalue => ?_
          · rw [coerceCrewaiToolResult, JsonText.coerce_of_error hloads]
            rfl
          · cases hloads.symm.trans hvalue
      | ok value =>
          rw [coerceCrewaiToolResult, JsonText.coerce_of_ok hloads, Keeps,
            JsonText.forall_loads hloads]
          cases value <;> simp [serializeCrewaiToolResult, isDict]
  | list items =>
      refine iff_of_false (fun hsame => ?_) id
      obtain ⟨_, hlist, -⟩ := PyValue.sameValue_list.mp hsame
      cases hlist
  | dict items =>
      refine iff_of_false (fun hsame => ?_) id
      obtain ⟨_, hdict, -⟩ := hsame
      cases hdict
  | none => exact iff_of_true rfl trivial
  | bool value => exact iff_of_true rfl trivial
  | int value => exact iff_of_true rfl trivial
  | float value => exact iff_of_true rfl trivial

end Composition

namespace ClaudeAgents

section Parts

variable {result : PyValue} {content : List PyValue} {text : String}

theorem isDict_iff {value : PyValue} : isDict value = true ↔ ∃ items, value = .dict items := by
  cases value <;> simp [isDict]

theorem exists_dict_of_getItem {key : String} {value : PyValue}
    (hget : result.getItem key = value) (hvalue : value ≠ .none) :
    ∃ items, result = .dict items ∧ (key, value) ∈ items := by
  cases result with
  | dict items => exact ⟨items, rfl, PyValue.mem_of_getItem hget hvalue⟩
  | _ => exact absurd hget.symm hvalue

/-- The text that is decoded stands within the result. -/
theorem mentions_of_firstText (hcontent : result.getItem "content" = .list content)
    (htext : firstText content = some text) : result.Mentions text := by
  obtain ⟨items, rfl, hmem⟩ := exists_dict_of_getItem hcontent (fun h => nomatch h)
  refine .member hmem ?_
  obtain ⟨block, hblock, hfound⟩ := List.exists_of_findSome?_eq_some htext
  refine .item hblock ?_
  split at hfound
  next =>
    have hstr := (Option.filter_eq_some_iff.mp hfound).1
    cases hget : block.getItem "text" with
    | str found =>
        rw [hget] at hstr
        obtain rfl : found = text := Option.some.inj hstr
        obtain ⟨members, rfl, hmem⟩ := exists_dict_of_getItem hget (fun h => nomatch h)
        exact .member hmem .str
    | _ => rw [hget] at hstr; cases hstr
  next => cases hfound

/-- A list that is the same as one text block. -/
theorem firstText_of_same (hsame : (PyValue.list content).SameValue (textBlock text)) :
    firstText content = if pyStrip text = "" then none else some text := by
  obtain ⟨items, hitems, hblocks⟩ := PyValue.exists_list_of_sameValue hsame
  cases hitems
  obtain ⟨block, rest, hblock, hrest, rfl⟩ := List.forall₂_cons_right_iff.mp hblocks
  obtain rfl := List.forall₂_nil_right_iff.mp hrest
  let members : List (String × PyValue) := [("type", .str "text"), ("text", .str text)]
  have hnodup : (members.map Prod.fst).Nodup := by
    change ["type", "text"].Nodup
    decide
  have hsecond : ("text", PyValue.str text) ∈ members := List.mem_cons_of_mem _ List.mem_cons_self
  have hfirst := hblock.getItem hnodup "type"
  rw [PyValue.getItem_of_mem hnodup List.mem_cons_self] at hfirst
  have htype : block.getItem "type" = .str "text" := PyValue.eq_of_sameValue_leaf rfl hfirst
  have hother := hblock.getItem hnodup "text"
  rw [PyValue.getItem_of_mem hnodup hsecond] at hother
  have htext : block.getItem "text" = .str text := PyValue.eq_of_sameValue_leaf rfl hother
  rw [firstText, List.findSome?_singleton, htype, htext, PyValue.asStr, if_pos rfl]
  by_cases hblank : pyStrip text = ""
  · simp [PyValue.asStr, hblank]
  · simp [PyValue.asStr, hblank]

/-- A result that is one text and nothing else. -/
theorem parts_of_single (hsame : result.SameValue (.dict [("content", textBlock text)])) :
    result.getItem "structuredContent" = .none ∧ ∃ content,
      result.getItem "content" = .list content ∧
        firstText content = if pyStrip text = "" then none else some text := by
  have hnodup : (([("content", textBlock text)] : List (String × PyValue)).map Prod.fst).Nodup :=
    List.nodup_singleton _
  have hstructured := hsame.getItem hnodup "structuredContent"
  rw [PyValue.getItem_of_not_mem (by simp)] at hstructured
  have hcontent := hsame.getItem hnodup "content"
  rw [PyValue.getItem_of_mem hnodup List.mem_cons_self] at hcontent
  obtain ⟨content, hlist, -⟩ := PyValue.exists_list_of_sameValue hcontent
  rw [hlist] at hcontent
  exact ⟨PyValue.eq_of_sameValue_leaf rfl hstructured, content, hlist,
    firstText_of_same hcontent⟩

/-- A result that is a text and a structured part. -/
theorem structured_of_pair {items : List (String × PyValue)} {shown : PyValue}
    (hsame : result.SameValue (.dict [("content", shown), ("structuredContent", .dict items)])) :
    isDict (result.getItem "structuredContent") = true := by
  let members : List (String × PyValue) :=
    [("content", shown), ("structuredContent", .dict items)]
  have hnodup : (members.map Prod.fst).Nodup := by
    change ["content", "structuredContent"].Nodup
    decide
  have hsecond : ("structuredContent", PyValue.dict items) ∈ members :=
    List.mem_cons_of_mem _ List.mem_cons_self
  have hstructured := hsame.getItem hnodup "structuredContent"
  rw [PyValue.getItem_of_mem hnodup hsecond] at hstructured
  obtain ⟨found, hfound, -⟩ := PyValue.exists_dict_of_sameValue hstructured
  rw [hfound]
  rfl

end Parts

section Conversion

variable {platform : Platform} {json : JsonText} {result : PyValue}

theorem toCallToolResult_content {items : List (String × PyValue)}
    (hcontent : "content" ∈ items.map Prod.fst) :
    toCallToolResult platform json (.dict items) = .dict items := by
  have hkey : (OrderedDict.ofList items).contains "content" = true :=
    OrderedDict.contains_iff.mpr ((OrderedDict.mem_keys_ofList _ _).mpr hcontent)
  rw [toCallToolResult, if_pos hkey]

theorem toCallToolResult_members {items : List (String × PyValue)}
    (hcontent : "content" ∉ items.map Prod.fst) :
    toCallToolResult platform json (.dict items) =
      .dict [("content", textBlock (json.dumps (.dict items))),
        ("structuredContent", .dict items)] := by
  have hkey : ¬(OrderedDict.ofList items).contains "content" = true := fun hkey =>
    hcontent ((OrderedDict.mem_keys_ofList _ _).mp (OrderedDict.contains_iff.mp hkey))
  rw [toCallToolResult, if_neg hkey]

/-! ### A structured part -/

theorem keeps_iff_of_structured {members : List (String × PyValue)}
    (hstructured : result.getItem "structuredContent" = .dict members) :
    Keeps platform json result ↔ "content" ∉ members.map Prod.fst ∧
      result.SameValue (.dict [("content", textBlock (json.dumps (.dict members))),
        ("structuredContent", .dict members)]) := by
  constructor
  · intro hkeeps
    cases hkeeps with
    | textless _ hnot _ =>
        rw [hstructured] at hnot
        cases hnot
    | structured hfound hmembers hsame =>
        cases hstructured.symm.trans hfound
        exact ⟨hmembers, hsame⟩
    | shown hsame _ _ _ => cases hstructured.symm.trans (parts_of_single hsame).1
  · rintro ⟨hmembers, hsame⟩
    exact .structured hstructured hmembers hsame

theorem sameValue_iff_of_structured {members : List (String × PyValue)}
    (hstructured : result.getItem "structuredContent" = .dict members) :
    result.SameValue (toCallToolResult platform json (extractCallToolResultPayload json result)) ↔
      Keeps platform json result := by
  have hpayload : extractCallToolResultPayload json result = .dict members := by
    rw [extractCallToolResultPayload, hstructured]
    rfl
  rw [hpayload, keeps_iff_of_structured hstructured]
  by_cases hcontent : "content" ∈ members.map Prod.fst
  · -- the structured part is given back in place of the result that it is a part of
    rw [toCallToolResult_content hcontent]
    obtain ⟨items, rfl, hmem⟩ := exists_dict_of_getItem hstructured (fun h => nomatch h)
    exact iff_of_false (PyValue.not_sameValue_member hmem) fun hkeeps => hkeeps.1 hcontent
  · rw [toCallToolResult_members hcontent]
    exact (and_iff_right hcontent).symm

/-! ### A text -/

/-- Where the text goes over into a text block, it is that text block. -/
theorem sameValue_textBlock {content : List PyValue} {text shown : String}
    (hcontent : result.getItem "content" = .list content)
    (htext : firstText content = some text)
    (hsame : result.SameValue (.dict [("content", textBlock shown)])) : shown = text := by
  obtain ⟨-, others, hothers, hfirst⟩ := parts_of_single hsame
  cases hcontent.symm.trans hothers
  rw [htext] at hfirst
  split at hfirst
  · cases hfirst
  · exact (Option.some.inj hfirst).symm

theorem keeps_iff_of_text {content : List PyValue} {text : String}
    (hstructured : isDict (result.getItem "structuredContent") = false)
    (hcontent : result.getItem "content" = .list content)
    (htext : firstText content = some text) :
    Keeps platform json result ↔ result.SameValue (.dict [("content", textBlock text)]) ∧
      ∃ value, json.loads text = .ok value ∧ IsShown value ∧ platform.pyStr value = text := by
  constructor
  · intro hkeeps
    cases hkeeps with
    | textless _ _ htextless => cases htext.symm.trans (htextless content hcontent)
    | structured hfound _ _ =>
        rw [hfound] at hstructured
        cases hstructured
    | @shown _ value found hsame hloads hvalue hshown =>
        obtain rfl : found = text := sameValue_textBlock hcontent htext hsame
        exact ⟨hsame, value, hloads, hvalue, hshown⟩
  · rintro ⟨hsame, value, hloads, hvalue, hshown⟩
    exact .shown hsame hloads hvalue hshown

theorem not_sameValue_of_wraps {payload : PyValue}
    (hstructured : isDict (result.getItem "structuredContent") = false)
    (hpayload : ∃ items, payload = .dict items ∧ "content" ∉ items.map Prod.fst) :
    ¬result.SameValue (toCallToolResult platform json payload) := by
  obtain ⟨items, rfl, hcontent⟩ := hpayload
  rw [toCallToolResult_members hcontent]
  intro hsame
  rw [structured_of_pair hsame] at hstructured
  cases hstructured

theorem sameValue_iff_of_text (hjson : json.Decodes) {content : List PyValue} {text : String}
    (hstructured : isDict (result.getItem "structuredContent") = false)
    (hcontent : result.getItem "content" = .list content)
    (htext : firstText content = some text) :
    result.SameValue (toCallToolResult platform json (extractCallToolResultPayload json result)) ↔
      Keeps platform json result := by
  have hpayload : extractCallToolResultPayload json result =
      ((json.loads text).toOption).getD (.dict [("text", .str text)]) := by
    rw [extractCallToolResultPayload, if_neg (Bool.eq_false_iff.mp hstructured), hcontent]
    dsimp only
    rw [htext]
  rw [hpayload, keeps_iff_of_text hstructured hcontent htext]
  cases hloads : json.loads text with
  | error message =>
      refine iff_of_false (not_sameValue_of_wraps hstructured ⟨_, rfl, by simp⟩) ?_
      rintro ⟨-, value, hvalue, -⟩
      cases hvalue
  | ok value =>
      have hmentions := mentions_of_firstText hcontent htext
      have hshorter : ¬value.Mentions text := fun hvalue =>
        Nat.lt_irrefl _ (hjson.shorter text value text hloads hvalue)
      have hvalues : (∃ other, (Except.ok value : Except String PyValue) = .ok other ∧
          IsShown other ∧ platform.pyStr other = text) ↔
            IsShown value ∧ platform.pyStr value = text := by
        constructor
        · rintro ⟨other, hother, hshown⟩
          cases hother
          exact hshown
        · exact fun hshown => ⟨value, rfl, hshown⟩
      rw [hvalues]
      change result.SameValue (toCallToolResult platform json value) ↔ _
      cases value with
      | dict items =>
          refine iff_of_false ?_ fun hkeeps => hkeeps.2.1
          by_cases hkey : "content" ∈ items.map Prod.fst
          · rw [toCallToolResult_content hkey]
            exact fun hsame => hshorter (hmentions.sameValue hsame)
          · exact not_sameValue_of_wraps hstructured ⟨items, rfl, hkey⟩
      | none =>
          refine iff_of_false (fun hsame => ?_) fun hkeeps => hkeeps.2.1
          have hblank : "" = text := sameValue_textBlock hcontent htext hsame
          exact hjson.nonempty _ (hblank ▸ hloads)
      | str inner =>
          refine iff_of_false (fun hsame => ?_) fun hkeeps => hkeeps.2.1
          have hinner : inner = text := sameValue_textBlock hcontent htext hsame
          exact hshorter (hinner ▸ .str)
      | _ =>
          constructor
          · intro hsame
            have hshown := sameValue_textBlock hcontent htext hsame
            rw [← hshown]
            exact ⟨hsame, trivial, rfl⟩
          · rintro ⟨hsame, -, hshown⟩
            rw [← hshown] at hsame
            exact hsame

/-! ### Neither -/

theorem keeps_iff_of_textless (hstructured : isDict (result.getItem "structuredContent") = false)
    (htextless : Textless result) : Keeps platform json result ↔
      ∃ items, result = .dict items ∧ "content" ∈ items.map Prod.fst := by
  constructor
  · intro hkeeps
    cases hkeeps with
    | textless hcontent _ _ => exact ⟨_, rfl, hcontent⟩
    | structured hfound _ _ =>
        rw [hfound] at hstructured
        cases hstructured
    | shown hsame _ _ _ =>
        obtain ⟨items, rfl, hkeys⟩ := PyValue.exists_dict_of_sameValue hsame
        exact ⟨items, rfl, hkeys.mem_iff.mpr List.mem_cons_self⟩
  · rintro ⟨items, rfl, hcontent⟩
    exact .textless hcontent hstructured htextless

theorem sameValue_iff_of_textless
    (hstructured : isDict (result.getItem "structuredContent") = false)
    (htextless : Textless result) :
    result.SameValue (toCallToolResult platform json (extractCallToolResultPayload json result)) ↔
      Keeps platform json result := by
  have hpayload : extractCallToolResultPayload json result = result := by
    rw [extractCallToolResultPayload, if_neg (Bool.eq_false_iff.mp hstructured)]
    split
    next content hcontent => rw [htextless content hcontent]
    next => rfl
  rw [hpayload, keeps_iff_of_textless hstructured htextless]
  have hother : ∀ others, ¬(∃ items, result = .dict items ∧ "content" ∈ items.map Prod.fst) →
      "content" ∈ others.map Prod.fst → ¬result.SameValue (.dict others) := by
    intro others hnot hcontent hsame
    obtain ⟨items, rfl, hkeys⟩ := PyValue.exists_dict_of_sameValue hsame
    exact hnot ⟨items, rfl, hkeys.mem_iff.mpr hcontent⟩
  constructor
  · intro hsame
    by_contra hnot
    cases result with
    | dict items =>
        have hkey : "content" ∉ items.map Prod.fst := fun hkey => hnot ⟨items, rfl, hkey⟩
        rw [toCallToolResult_members hkey] at hsame
        exact hother _ hnot List.mem_cons_self hsame
    | _ => exact hother _ hnot List.mem_cons_self hsame
  · rintro ⟨items, rfl, hcontent⟩
    rw [toCallToolResult_content hcontent]
    exact PyValue.sameValue_refl _

/-- The cases are what the payload is taken from. -/
theorem sameValue_iff (hjson : json.Decodes) (result : PyValue) :
    result.SameValue (toCallToolResult platform json (extractCallToolResultPayload json result)) ↔
      Keeps platform json result := by
  cases hstructured : isDict (result.getItem "structuredContent") with
  | true =>
      obtain ⟨members, hmembers⟩ := isDict_iff.mp hstructured
      exact sameValue_iff_of_structured hmembers
  | false =>
      by_cases htextless : Textless result
      · exact sameValue_iff_of_textless hstructured htextless
      · obtain ⟨content, hcontent, htext⟩ : ∃ content, result.getItem "content" = .list content ∧
            firstText content ≠ none := by
          simpa only [Textless, not_forall, exists_prop] using htextless
        obtain ⟨text, htext⟩ := Option.ne_none_iff_exists'.mp htext
        exact sameValue_iff_of_text hjson hstructured hcontent htext

end Conversion

end ClaudeAgents

/-- The results that are no text of a dict. -/
def KeepsUndecoded (json : JsonText) : PyValue → Prop
  | .str text => ∀ value, json.loads text = .ok value → isDict value = false
  | _ => True

/-- A text that is JSON of a dict becomes that dict. -/
theorem sameValue_coerce_iff {json : JsonText} (result : PyValue) :
    result.SameValue (json.coerce isDict result) ↔ KeepsUndecoded json result := by
  cases result with
  | str text =>
      rw [sameValue_str]
      cases hloads : json.loads text with
      | error message =>
          refine iff_of_true (JsonText.coerce_of_error hloads) fun value hvalue => ?_
          cases hloads.symm.trans hvalue
      | ok value =>
          rw [JsonText.coerce_of_ok hloads, KeepsUndecoded, JsonText.forall_loads hloads]
          cases value <;> simp [isDict]
  | _ => exact iff_of_true (PyValue.sameValue_refl _) trivial

/-! ## Guarded calls -/

/-- What becomes of the handler's result before the evidence is built. -/
def Framework.coerceResult (json : JsonText) : Framework → PyValue → PyValue
  | .openaiAgents => OpenaiAgents.coerceToolResult json
  | .claudeAgents => ClaudeAgents.extractCallToolResultPayload json
  | .microsoftAgentFramework => id
  | .crewai => Crewai.coerceCrewaiToolResult json
  | .pydanticAi => PydanticAi.coerceToolResult json
  | .googleAdk => GoogleAdk.coerceToolResult json

/-- What becomes of it after. -/
def Framework.serializeResult (platform : Platform) (json : JsonText) :
    Framework → PyValue → PyValue
  | .openaiAgents => OpenaiAgents.serializeToolResult json
  | .claudeAgents => ClaudeAgents.toCallToolResult platform json
  | .crewai => Crewai.serializeCrewaiToolResult json
  | .microsoftAgentFramework | .pydanticAi | .googleAdk => id

/-- The results that an adapter gives back as they are. -/
def Framework.Keeps (platform : Platform) (json : JsonText) : Framework → PyValue → Prop
  | .openaiAgents => OpenaiAgents.Keeps json
  | .claudeAgents => ClaudeAgents.Keeps platform json
  | .microsoftAgentFramework => fun _ => True
  | .crewai => Crewai.Keeps json
  | .pydanticAi | .googleAdk => KeepsUndecoded json

theorem Framework.sameValue_iff {platform : Platform} {json : JsonText} (hjson : json.Decodes)
    (framework : Framework) (result : PyValue) :
    result.SameValue (framework.serializeResult platform json
      (framework.coerceResult json result)) ↔ framework.Keeps platform json result := by
  cases framework with
  | openaiAgents => exact OpenaiAgents.sameValue_iff hjson result
  | claudeAgents => exact ClaudeAgents.sameValue_iff hjson result
  | microsoftAgentFramework => exact iff_of_true (PyValue.sameValue_refl result) trivial
  | crewai => exact Crewai.sameValue_iff result
  | pydanticAi => exact sameValue_coerce_iff result
  | googleAdk => exact sameValue_coerce_iff result

/-- What the handler has returned in a call. -/
def handlerResults (past : List (Exchange Val PyExc)) : List PyValue :=
  past.filterMap handlerResult?

section Calls

variable (platform : Platform) (json : JsonText) (binding : PaybondRunBinding)
variable (approvalTokens : OrderedDict String String) (framework : Framework)
variable (toolName : String) (call : IncomingCall) (past : List (Exchange Val PyExc))

/-- The call is authorized, or needs no authorization, and succeeds: `wrap_execute` returns. -/
def Succeeds : Prop :=
  ∃ arguments wrapped, call.arguments = .ok arguments ∧
    ((wrapExecute platform binding
      (guardedInput approvalTokens toolName call.toolCallId arguments)).mapAnswers
        (executeClosure (framework.coerceResult json))).Ends past (.ok wrapped)

/-- The guarded tool returns the result of the handler. -/
def ReturnsHandlerResult : Prop :=
  ∃ result returned, handlerResults past = [result] ∧
    (callTool platform json binding approvalTokens framework (.guarded toolName) call).Ends past
      (.ok returned) ∧
    result.SameValue returned

variable {platform json binding approvalTokens framework toolName call past}

/-- A call that succeeds returns the handler's one result, as it comes out of both functions of
the adapter. -/
theorem Succeeds.exists_result
    (hsucceeds : Succeeds platform json binding approvalTokens framework toolName call past) :
    ∃ result, handlerResults past = [result] ∧
      (callTool platform json binding approvalTokens framework (.guarded toolName) call).Ends past
        (.ok (framework.serializeResult platform json (framework.coerceResult json result))) := by
  obtain ⟨arguments, wrapped, harguments, hwrapped⟩ := hsucceeds
  have hexecuted := executed?_wrapExecute (ends_mapAnswers.mp hwrapped)
  rw [List.filterMap_map] at hexecuted
  have hcomposed : executed? ∘ adaptExchange (executeClosure (framework.coerceResult json)) =
      fun exchange => (handlerResult? exchange).map (framework.coerceResult json) := by
    funext exchange
    exact executed?_adaptExchange _ exchange
  rw [hcomposed, ← List.map_filterMap] at hexecuted
  obtain ⟨result, hresult, hcoerced⟩ := List.map_eq_singleton_iff.mp hexecuted
  refine ⟨result, hresult, ?_⟩
  have hguarded : ∀ refuse, (guardToolExecution platform binding approvalTokens
      (framework.coerceResult json) (framework.serializeResult platform json) refuse toolName
        call).Ends past (.ok (framework.serializeResult platform json wrapped.toolResult)) := by
    intro refuse
    refine returns_bind.mpr ⟨arguments, [], past, rfl, ?_, ?_⟩
    · exact ends_ofExcept.mpr ⟨rfl, harguments.symm⟩
    · refine returns_tryExcept.mpr (.inl (returns_bind.mpr ?_))
      exact ⟨wrapped, past, [], (List.append_nil _).symm, hwrapped, .ret _⟩
  rw [hcoerced]
  cases framework <;> exact hguarded _

theorem Succeeds.returns_iff (hjson : json.Decodes)
    (hsucceeds : Succeeds platform json binding approvalTokens framework toolName call past) :
    ReturnsHandlerResult platform json binding approvalTokens framework toolName call past ↔
      ∀ result ∈ handlerResults past, framework.Keeps platform json result := by
  obtain ⟨result, hresult, hends⟩ := hsucceeds.exists_result
  rw [hresult, List.forall_mem_singleton, ← Framework.sameValue_iff hjson]
  constructor
  · rintro ⟨other, returned, hother, hreturned, hsame⟩
    cases hresult.symm.trans hother
    cases hends.unique hreturned
    exact hsame
  · exact fun hsame => ⟨result, _, hresult, hends, hsame⟩

end Calls

def jsonBooked : JsonText :=
  .stdlib (fun _ => .nan) (fun _ => .ofInt 0) (fun _ => "Expecting value")

def callBooked : IncomingCall where
  toolCallId := "call"
  arguments := .ok (.dict [])

/-- Harbor decides, and the handler returns the result. -/
def answersReturning (result : PyValue) : (op : Op) → Except PyExc (Val op)
  | .access access => .ok (access.run 0 (.bind registryTravel none)).1
  | .host (.awaitHandler _) => .ok result
  | .host call => decidingHost "decision" call

def bookingDialogue (framework : Framework) (result : PyValue) :
    Option (List (Exchange Val PyExc) × Except PyExc PaybondInterceptWrapExecuteResult) :=
  ((wrapExecute platformTravel bindingTravel
    (guardedInput .empty "travel.book_hotel" "call" (.dict []))).mapAnswers
      (executeClosure (framework.coerceResult jsonBooked))).dialogue (answersReturning result)

/-- The hotel is booked under an authorization. -/
def Books (framework : Framework) (result : PyValue) : Prop :=
  ((bookingDialogue framework result).any fun (_, outcome) =>
    outcome.toOption.any fun wrapped => wrapped.authorization.isSome) = true

instance (framework : Framework) (result : PyValue) : Decidable (Books framework result) :=
  inferInstanceAs (Decidable (_ = true))

theorem succeeds_of_books {framework : Framework} {result : PyValue}
    (hbooks : Books framework result) :
    ∃ past, Succeeds platformTravel jsonBooked bindingTravel .empty framework "travel.book_hotel"
      callBooked past ∧ handlerResults past = [result] := by
  obtain ⟨⟨past, outcome⟩, hdialogue, houtcome⟩ := (Option.any_eq_true _ _).mp hbooks
  obtain ⟨wrapped, hwrapped, -⟩ := (Option.any_eq_true _ _).mp houtcome
  obtain rfl := except_mem_toOption.mp hwrapped
  have hsucceeds : Succeeds platformTravel jsonBooked bindingTravel .empty framework
      "travel.book_hotel" callBooked past :=
    ⟨.dict [], wrapped, rfl, ends_of_dialogue hdialogue⟩
  refine ⟨past, hsucceeds, ?_⟩
  obtain ⟨found, hfound, -⟩ := hsucceeds.exists_result
  have hmem : found ∈ past.filterMap handlerResult? := by
    change found ∈ handlerResults past
    rw [hfound]
    exact List.mem_singleton_self found
  obtain ⟨exchange, hexchange, hresult⟩ := List.mem_filterMap.mp hmem
  have hanswer := answer_of_dialogue hdialogue exchange hexchange
  unfold handlerResult? at hresult
  split at hresult
  · obtain rfl := Option.some.inj hresult
    rw [hfound, Except.ok.inj hanswer]
  · cases hresult

/-- A tool result of the Claude Agent SDK that is flagged as an error. -/
def resultFlagged : PyValue :=
  .dict [("content", ClaudeAgents.textBlock "no rooms left"), ("isError", .bool true)]

end PaybondKit.Adapters
