import PaybondKit.Cli.EnvQuotes

/-!
# What a written env file says

Behind the written line the reader finds what it found before, unless the match of the pattern has
taken other assignments along: it goes up to the next newline, and the reader ends a line at other
characters too. The written line itself is read unless an assignment that the pattern does not see
stands before it.
-/

namespace PaybondKit.Cli

/-! ## The match -/

section Search

variable {text value : List Char} {found : EnvMatch}

theorem matchApiKey_suffix (hmatch : matchApiKey text = some value) : value <:+ text := by
  obtain ⟨rest, hrest, hvalue⟩ := Option.bind_eq_some_iff.mp hmatch
  have hskip : skipExport text <:+ text := by
    obtain ⟨lead, -, hline | ⟨gap, -, -, hline⟩⟩ := skipExport_cases text
    · exact ⟨lead, hline.symm⟩
    · refine ⟨lead ++ ("export".toList ++ gap), ?_⟩
      rw [List.append_assoc, List.append_assoc]
      exact hline.symm
  have hname : rest <:+ skipExport text := ⟨apiKeyName, (dropPrefix?_eq_some_iff.mp hrest).symm⟩
  have hequals : value <:+ rest.dropWhile isPySpace :=
    ⟨['='], (dropPrefix?_eq_some_iff.mp hvalue).symm⟩
  exact hequals.trans ((List.dropWhile_suffix _).trans (hname.trans hskip))

/-- The match stands on lines of its own. -/
structure EnvMatch.Splits (found : EnvMatch) (text : List Char) : Prop where
  text_eq : text = found.before ++ (found.taken ++ found.after)
  after : found.after = [] ∨ found.after.head? = some '\n'

theorem splits_of_searchApiKey {lineStart : Bool} (hsearch : searchApiKey lineStart text = some found) :
    found.Splits text ∧ (found.before = [] → lineStart = true) ∧
      (found.before ≠ [] → found.before.getLast? = some '\n') := by
  induction text generalizing lineStart found with
  | nil => cases hsearch
  | cons c rest ih =>
      rw [searchApiKey] at hsearch
      split at hsearch
      next value hvalue =>
        have hstart : lineStart = true := by
          by_contra hstart
          rw [if_neg hstart] at hvalue
          cases hvalue
        rw [if_pos hstart] at hvalue
        obtain rfl := Option.some.inj hsearch
        have hsuffix : value.dropWhile (· ≠ '\n') <:+ c :: rest :=
          (List.dropWhile_suffix _).trans (matchApiKey_suffix hvalue)
        refine ⟨⟨?_, ?_⟩, fun _ => hstart, fun h => absurd rfl h⟩
        · obtain ⟨taken, htaken⟩ := hsuffix
          rw [List.nil_append]
          conv_lhs => rw [← htaken]
          rw [← htaken, List.length_append, Nat.add_sub_cancel_right, List.take_left]
        · cases hafter : value.dropWhile (· ≠ '\n') with
          | nil => exact .inl rfl
          | cons d after =>
              right
              have hhead := List.head?_dropWhile_not (· ≠ '\n') value
              rw [hafter] at hhead
              simpa using hhead
      next =>
        obtain ⟨inner, hinner, rfl⟩ := Option.map_eq_some_iff.mp hsearch
        obtain ⟨⟨htext, hafter⟩, hstart, hlast⟩ := ih hinner
        refine ⟨⟨by rw [List.cons_append, ← htext], hafter⟩, fun h => absurd h (List.cons_ne_nil _ _), ?_⟩
        intro _
        cases hbefore : inner.before with
        | nil =>
            have hnewline := of_decide_eq_true (hstart hbefore)
            rw [hnewline]
            rfl
        | cons d before =>
            have hinnerLast := hlast (by rw [hbefore]; exact List.cons_ne_nil _ _)
            rw [hbefore] at hinnerLast
            rw [List.getLast?_cons_cons]
            exact hinnerLast

end Search

/-! ## Texts set apart by newlines -/

section Apart

variable {before middle after : List Char}

theorem contentLines_before (hbefore : before = [] ∨ before.getLast? = some '\n')
    (rest : List Char) : contentLines (before ++ rest) = contentLines before ++ contentLines rest := by
  rcases hbefore with rfl | hlast
  · rfl
  · obtain ⟨front, rfl⟩ := List.getLast?_eq_some_iff.mp hlast
    rw [List.append_assoc, List.singleton_append, contentLines_append_newline,
      contentLines_append_newline]
    have hnil : contentLines [] = [] := rfl
    rw [hnil, List.append_nil]

theorem contentLines_after (hafter : after = [] ∨ after.head? = some '\n') (middle : List Char) :
    contentLines (middle ++ after) = contentLines middle ++ contentLines after := by
  rcases hafter with rfl | hhead
  · have hnil : contentLines [] = [] := rfl
    rw [List.append_nil, hnil, List.append_nil]
  · obtain ⟨rest, rfl⟩ := List.head?_eq_some_iff.mp hhead
    rw [contentLines_append_newline, contentLines_cons (by decide)]

theorem lookupEnv_of_contentLines {text : List Char} {lines lines' : List (List Char)}
    (htext : contentLines text = lines ++ lines') (name : List Char) :
    lookupEnv text name =
      (lines.findSome? (assignedText name)).or (lines'.findSome? (assignedText name)) := by
  rw [lookupEnv, htext, List.findSome?_append]

end Apart

/-- The variables are read as they are written, and every other variable as it was read before. -/
def WritesOnly (old new : List Char) (updates : List (List Char × List Char)) : Prop :=
  (∀ update ∈ updates, readEnvFileValue new update.1 = some update.2) ∧
    ∀ name, IsVariable name → name ∉ updates.map Prod.fst →
      readEnvFileValue new name = readEnvFileValue old name

/-! ## Login -/

/-- The text before and behind the written line, and what it takes the place of. -/
def surroundings (existing : List Char) : EnvMatch :=
  (searchApiKey true existing).getD { before := existing, taken := [], after := [] }

/-- An assignment that the reader finds before the written line has the value already, the value
has no character that stays escaped, and an assignment that the match takes along stands before it
as well or is found behind it with the same value. -/
structure KeepsAll (existing rawKey : List Char) : Prop where
  unshadowed : ∀ text, lookupEnv (surroundings existing).before apiKeyName = some text →
    envValue text = some rawKey
  readable : lookupEnv (surroundings existing).before apiKeyName = none →
    if (searchApiKey true existing).isSome then '"' ∉ rawKey else ∀ c ∈ rawKey, Unescaped c
  kept : ∀ name, IsVariable name → name ≠ apiKeyName →
    lookupEnv (surroundings existing).before name = none →
      ∀ text, lookupEnv (surroundings existing).taken name = some text →
        envValue text = readEnvFileValue (surroundings existing).after name

section Login

variable {existing rawKey next : List Char} {force : Bool}

theorem apiKeyName_ne : apiKeyName ≠ [] := by decide

theorem isNameChar_apiKeyName : ∀ c ∈ apiKeyName, isNameChar c = true := by
  have hall : apiKeyName.all isNameChar = true := by decide
  exact List.all_eq_true.mp hall

/-- The lines of the new text are those around the written line, which has the value under the
condition. -/
theorem contentLines_replaceOrAppend (hkey : KeyText rawKey)
    (hwrite : replaceOrAppendEnvValue existing rawKey force = .ok next) :
    contentLines existing = contentLines (surroundings existing).before ++
        (contentLines (surroundings existing).taken ++ contentLines (surroundings existing).after) ∧
      ∃ value, EndsLine value ∧
        contentLines next = contentLines (surroundings existing).before ++
          ((apiKeyName ++ '=' :: value) :: contentLines (surroundings existing).after) ∧
        (envValue value = some rawKey ↔
          if (searchApiKey true existing).isSome then '"' ∉ rawKey
          else ∀ c ∈ rawKey, Unescaped c) := by
  unfold replaceOrAppendEnvValue at hwrite
  unfold surroundings
  cases hsearch : searchApiKey true existing with
  | some found =>
      rw [hsearch] at hwrite
      dsimp only at hwrite
      split at hwrite
      next => cases hwrite
      next =>
        split at hwrite
        next line hexpand =>
          obtain rfl := Except.ok.inj hwrite
          obtain ⟨value, rfl, hends, hread⟩ := expandTemplate_apiKeyLine hkey hexpand
          obtain ⟨⟨htext, hafter⟩, -, hlast⟩ := splits_of_searchApiKey hsearch
          have hbefore : found.before = [] ∨ found.before.getLast? = some '\n' :=
            or_iff_not_imp_left.mpr hlast
          obtain ⟨-, -, hline⟩ := contentLines_assignment apiKeyName_ne isNameChar_apiKeyName hends
          rw [Option.getD_some, Option.isSome_some, if_pos rfl]
          refine ⟨?_, value, hends, ?_, hread⟩
          · conv_lhs => rw [htext]
            rw [contentLines_before hbefore, contentLines_after hafter]
          · rw [List.append_assoc, contentLines_before hbefore, contentLines_after hafter, hline]
            rfl
        next => cases hwrite
  | none =>
      rw [hsearch] at hwrite
      dsimp only at hwrite
      obtain rfl := Except.ok.inj hwrite
      have hends := endsLine_quoteEnvValue hkey
      obtain ⟨-, -, hline⟩ := contentLines_assignment apiKeyName_ne isNameChar_apiKeyName hends
      have hnil : contentLines [] = [] := rfl
      rw [Option.getD_none, Option.isSome_none, if_neg Bool.false_ne_true]
      refine ⟨by rw [hnil, List.append_nil, List.append_nil], quoteEnvValue rawKey, hends, ?_,
        envValue_quoteEnvValue_iff hkey⟩
      have hsuffix : contentLines (existing ++
          ((if existing ≠ [] ∧ existing.getLast? ≠ some '\n' then ['\n'] else []) ++
            apiKeyLine rawKey)) = contentLines existing ++ contentLines (apiKeyLine rawKey) := by
        split
        next => rw [List.singleton_append, contentLines_append_newline]
        next hended =>
          refine contentLines_before ?_ _
          by_cases hempty : existing = []
          · exact .inl hempty
          · exact .inr (not_not.mp (not_and.mp hended hempty))
      rw [contentLines_append_newline, List.append_assoc, hsuffix, apiKeyLine, hline, hnil,
        List.append_nil]

/-- The other variables are read as before when those that the match has taken along are found
around it. -/
theorem read_other_iff {before taken after written : List (List Char)} {name : List Char}
    (hwritten : written.findSome? (assignedText name) = none) :
    ((before ++ (written ++ after)).findSome? (assignedText name)).bind envValue =
        ((before ++ (taken ++ after)).findSome? (assignedText name)).bind envValue ↔
      (before.findSome? (assignedText name) = none →
        ∀ text, taken.findSome? (assignedText name) = some text →
          envValue text = (after.findSome? (assignedText name)).bind envValue) := by
  rw [List.findSome?_append, List.findSome?_append, List.findSome?_append, List.findSome?_append,
    hwritten, Option.none_or]
  cases before.findSome? (assignedText name) with
  | some text => exact iff_of_true rfl nofun
  | none =>
      rw [Option.none_or, Option.none_or]
      cases taken.findSome? (assignedText name) with
      | none => exact iff_of_true rfl nofun
      | some text =>
          rw [Option.some_or, Option.bind_some]
          constructor
          · rintro hsame - other ⟨⟩
            exact hsame.symm
          · intro hsame
            exact (hsame rfl text rfl).symm

theorem assignedText_written {value name : List Char} (hvariable : IsVariable name)
    (hname : name ≠ apiKeyName) (hends : EndsLine value) :
    [apiKeyName ++ '=' :: value].findSome? (assignedText name) = none := by
  obtain ⟨hstrip, -, -⟩ := contentLines_assignment apiKeyName_ne isNameChar_apiKeyName hends
  have hself := @assignedText_self apiKeyName value apiKeyName_ne isNameChar_apiKeyName
  rw [← hstrip] at hself
  have hassigned := assignedName_of_assignedText apiKeyName_ne isNameChar_apiKeyName hself
  have hnone := assignedText_other hassigned hvariable hname
  rw [hstrip] at hnone
  rw [List.findSome?_cons, hnone]
  rfl

theorem writesOnly_login_iff (hkey : KeyText rawKey)
    (hwrite : replaceOrAppendEnvValue existing rawKey force = .ok next) :
    WritesOnly existing next [(apiKeyName, rawKey)] ↔ KeepsAll existing rawKey := by
  obtain ⟨hold, value, hends, hnew, hread⟩ := contentLines_replaceOrAppend hkey hwrite
  have hself := @assignedText_self apiKeyName value apiKeyName_ne isNameChar_apiKeyName
  have hwritten : readEnvFileValue next apiKeyName = some rawKey ↔
      (∀ text, lookupEnv (surroundings existing).before apiKeyName = some text →
        envValue text = some rawKey) ∧
      (lookupEnv (surroundings existing).before apiKeyName = none → envValue value = some rawKey) := by
    rw [readEnvFileValue_eq, lookupEnv_of_contentLines hnew, List.findSome?_cons, hself, lookupEnv]
    cases (contentLines (surroundings existing).before).findSome? (assignedText apiKeyName) with
    | none => simp
    | some text => simp
  have hothers : ∀ name, IsVariable name → name ≠ apiKeyName →
      (readEnvFileValue next name = readEnvFileValue existing name ↔
        (lookupEnv (surroundings existing).before name = none →
          ∀ text, lookupEnv (surroundings existing).taken name = some text →
            envValue text = readEnvFileValue (surroundings existing).after name)) := by
    intro name hvariable hname
    have hnone := assignedText_written hvariable hname hends
    have hiff := @read_other_iff (contentLines (surroundings existing).before)
      (contentLines (surroundings existing).taken) (contentLines (surroundings existing).after) _ _ hnone
    rw [List.singleton_append, ← hnew, ← hold] at hiff
    simpa only [readEnvFileValue_eq, lookupEnv] using hiff
  constructor
  · rintro ⟨hvalues, hnames⟩
    obtain ⟨hshadow, hquote⟩ := hwritten.mp (hvalues _ List.mem_cons_self)
    refine ⟨hshadow, fun hnone => hread.mp (hquote hnone), fun name hvariable hname => ?_⟩
    exact (hothers name hvariable hname).mp (hnames name hvariable (by simpa using hname))
  · rintro ⟨hshadow, hquote, hkept⟩
    refine ⟨?_, ?_⟩
    · intro update hupdate
      obtain rfl := List.mem_singleton.mp hupdate
      exact hwritten.mpr ⟨hshadow, fun hnone => hread.mpr (hquote hnone)⟩
    · intro name hvariable hname
      have hname : name ≠ apiKeyName := by simpa using hname
      exact (hothers name hvariable hname).mpr (hkept name hvariable hname)

end Login

/-! ## A bound run -/

section Run

variable {updates : List (List Char × List Char)} {existing : List Char}

/-- The updates of variables in capitals, one for each. -/
structure Updates (updates : List (List Char × List Char)) : Prop where
  nodup : (updates.map Prod.fst).Nodup
  names : ∀ update ∈ updates, update.1 ≠ [] ∧ ∀ c ∈ update.1, isNameChar c = true
  values : ∀ update ∈ updates, KeyText update.2

theorem mem_of_updateOf {line : List Char} {update : List Char × List Char}
    (hupdate : updateOf updates line = some update) :
    update ∈ updates ∧ assignedName line = some update.1 := by
  obtain ⟨name, hname, hfind⟩ := Option.bind_eq_some_iff.mp hupdate
  have hsame : update.1 = name := by simpa using List.find?_some hfind
  exact ⟨List.mem_of_find?_eq_some hfind, hsame ▸ hname⟩

theorem Updates.eq_of_name (hupdates : Updates updates) {update update' : List Char × List Char}
    (hmem : update ∈ updates) (hmem' : update' ∈ updates) (hname : update.1 = update'.1) :
    update = update' :=
  List.inj_on_of_nodup_map hupdates.nodup hmem hmem' hname

theorem updateOf_of_assignedName (hupdates : Updates updates) {line : List Char}
    {update : List Char × List Char} (hmem : update ∈ updates)
    (hname : assignedName line = some update.1) : updateOf updates line = some update := by
  rw [updateOf, hname, Option.bind_some]
  cases hfind : updates.find? fun other => decide (other.1 = update.1) with
  | none =>
      have hnot := List.find?_eq_none.mp hfind update hmem
      simp at hnot
  | some other =>
      have hsame : other.1 = update.1 := by simpa using List.find?_some hfind
      rw [hupdates.eq_of_name (List.mem_of_find?_eq_some hfind) hmem hsame]

/-- What the reader finds on the line of an update. -/
theorem Updates.line (hupdates : Updates updates) {update : List Char × List Char}
    (hmem : update ∈ updates) :
    (∀ c ∈ updateLine update, isLineBreak c = false) ∧
      assignedText update.1 (stripLine (updateLine update)) = some (quoteEnvValue update.2) ∧
      ∀ name, IsVariable name → name ≠ update.1 →
        assignedText name (stripLine (updateLine update)) = none := by
  obtain ⟨hne, hname⟩ := hupdates.names update hmem
  obtain ⟨hstrip, hunbroken, -⟩ :=
    contentLines_assignment hne hname (endsLine_quoteEnvValue (hupdates.values update hmem))
  have hself := @assignedText_self update.1 (quoteEnvValue update.2) hne hname
  rw [← hstrip] at hself
  have hassigned := assignedName_of_assignedText hne hname hself
  exact ⟨hunbroken, hself, fun name hvariable hdistinct =>
    assignedText_other hassigned hvariable hdistinct⟩

theorem mem_outputLines {line : List Char} (hline : line ∈ outputLines updates existing) :
    (line ∈ splitlines existing ∧ updateOf updates line = none) ∨
      ∃ update ∈ updates, line = updateLine update := by
  rcases List.mem_append.mp hline with hline | hline
  · obtain ⟨raw, hraw, rfl⟩ := List.mem_map.mp hline
    unfold rewriteLine
    cases hupdate : updateOf updates raw with
    | none => exact .inl ⟨hraw, hupdate⟩
    | some update => exact .inr ⟨update, (mem_of_updateOf hupdate).1, rfl⟩
  · obtain ⟨update, hupdate, rfl⟩ := List.mem_map.mp hline
    exact .inr ⟨update, (List.mem_filter.mp hupdate).1, rfl⟩

theorem lookupEnv_writeUpdates (hupdates : Updates updates) (name : List Char) :
    lookupEnv (writeUpdates updates existing) name =
      (outputLines updates existing).findSome? fun line => assignedText name (stripLine line) := by
  have hunbroken : ∀ line ∈ outputLines updates existing, ∀ c ∈ line, isLineBreak c = false := by
    intro line hline
    rcases mem_outputLines hline with ⟨hold, -⟩ | ⟨update, hupdate, rfl⟩
    · exact not_isLineBreak_of_mem_splitlines hold
    · exact (hupdates.line hupdate).1
  have hcontent : contentLines (writeUpdates updates existing) =
      contentLines (['\n'].intercalate (outputLines updates existing)) := by
    unfold writeUpdates
    dsimp only
    change contentLines (if _ then ['\n'].intercalate (outputLines updates existing) ++ ['\n']
      else ['\n'].intercalate (outputLines updates existing)) = _
    split
    next =>
      have hnil : contentLines [] = [] := rfl
      rw [contentLines_append_newline, hnil, List.append_nil]
    next => rfl
  rw [lookupEnv, hcontent, contentLines_join hunbroken, findSome?_content]

theorem lookupEnv_other (hupdates : Updates updates) {name : List Char}
    (hvariable : IsVariable name) (hname : name ∉ updates.map Prod.fst) :
    lookupEnv (writeUpdates updates existing) name = lookupEnv existing name := by
  have hdistinct : ∀ update ∈ updates, name ≠ update.1 := by
    rintro update hupdate rfl
    exact hname (List.mem_map_of_mem hupdate)
  have hrewrite : ∀ line, assignedText name (stripLine (rewriteLine updates line)) =
      assignedText name (stripLine line) := by
    intro line
    unfold rewriteLine
    cases hupdate : updateOf updates line with
    | none => rfl
    | some update =>
        obtain ⟨hmem, hassigned⟩ := mem_of_updateOf hupdate
        rw [Option.map_some, Option.getD_some, (hupdates.line hmem).2.2 name hvariable
          (hdistinct update hmem), assignedText_other hassigned hvariable (hdistinct update hmem)]
  have hadded : ∀ added : List (List Char × List Char), (∀ update ∈ added, update ∈ updates) →
      ((added.map updateLine).findSome? fun line => assignedText name (stripLine line)) = none := by
    intro added hadded
    rw [List.findSome?_eq_none_iff]
    intro line hline
    obtain ⟨update, hupdate, rfl⟩ := List.mem_map.mp hline
    exact (hupdates.line (hadded update hupdate)).2.2 name hvariable
      (hdistinct update (hadded update hupdate))
  rw [lookupEnv_writeUpdates hupdates, outputLines, List.findSome?_append,
    hadded _ fun update hupdate => (List.mem_filter.mp hupdate).1, Option.or_none,
    List.findSome?_map, lookupEnv, contentLines, findSome?_content]
  congr 1
  funext line
  exact hrewrite line

/-- Each variable of the run is on a line of its own, and on no other line. -/
theorem lookupEnv_update (hupdates : Updates updates) {update : List Char × List Char}
    (hmem : update ∈ updates) :
    lookupEnv (writeUpdates updates existing) update.1 = some (quoteEnvValue update.2) := by
  obtain ⟨hne, hname⟩ := hupdates.names update hmem
  have hvariable := isVariable_of_isNameChar hne hname
  rw [lookupEnv_writeUpdates hupdates]
  have heach : ∀ line ∈ outputLines updates existing, ∀ text,
      assignedText update.1 (stripLine line) = some text → text = quoteEnvValue update.2 := by
    intro line hline text htext
    rcases mem_outputLines hline with ⟨-, hnone⟩ | ⟨other, hother, rfl⟩
    · have hassigned := assignedName_of_assignedText hne hname htext
      rw [updateOf_of_assignedName hupdates hmem hassigned] at hnone
      cases hnone
    · by_cases hsame : update.1 = other.1
      · obtain rfl := hupdates.eq_of_name hmem hother hsame
        rw [(hupdates.line hmem).2.1] at htext
        exact (Option.some.inj htext).symm
      · rw [(hupdates.line hother).2.2 _ hvariable hsame] at htext
        cases htext
  have hwritten : updateLine update ∈ outputLines updates existing := by
    by_cases hseen : update.1 ∈ ((splitlines existing).filterMap (updateOf updates)).map Prod.fst
    · obtain ⟨other, hother, hsame⟩ := List.mem_map.mp hseen
      obtain ⟨line, hline, hupdate⟩ := List.mem_filterMap.mp hother
      obtain rfl := hupdates.eq_of_name (mem_of_updateOf hupdate).1 hmem hsame
      refine List.mem_append_left _ (List.mem_map.mpr ⟨line, hline, ?_⟩)
      rw [rewriteLine, hupdate]
      rfl
    · refine List.mem_append_right _ (List.mem_map_of_mem (List.mem_filter.mpr ⟨hmem, ?_⟩))
      exact decide_eq_true hseen
  cases hfind : (outputLines updates existing).findSome?
      fun line => assignedText update.1 (stripLine line) with
  | none =>
      have hnone := List.findSome?_eq_none_iff.mp hfind _ hwritten
      rw [(hupdates.line hmem).2.1] at hnone
      cases hnone
  | some text =>
      obtain ⟨line, hline, htext⟩ := List.exists_of_findSome?_eq_some hfind
      rw [heach line hline text htext]

theorem writesOnly_run_iff (hupdates : Updates updates) :
    WritesOnly existing (writeUpdates updates existing) updates ↔
      ∀ update ∈ updates, ∀ c ∈ update.2, Unescaped c := by
  have hread : ∀ update ∈ updates,
      (readEnvFileValue (writeUpdates updates existing) update.1 = some update.2 ↔
        ∀ c ∈ update.2, Unescaped c) := by
    intro update hmem
    rw [readEnvFileValue_eq, lookupEnv_update hupdates hmem, Option.bind_some,
      envValue_quoteEnvValue_iff (hupdates.values update hmem)]
  constructor
  · rintro ⟨hvalues, -⟩ update hmem
    exact (hread update hmem).mp (hvalues update hmem)
  · intro hunescaped
    refine ⟨fun update hmem => (hread update hmem).mpr (hunescaped update hmem), ?_⟩
    intro name hvariable hname
    rw [readEnvFileValue_eq, readEnvFileValue_eq, lookupEnv_other hupdates hvariable hname]

end Run

/-! ## Both writers -/

theorem updates_runUpdates {intentId capabilityToken runId : List Char} (hintent : KeyText intentId)
    (htoken : KeyText capabilityToken) (hrun : KeyText runId) :
    Updates (runUpdates intentId capabilityToken runId) where
  nodup := by
    have hnames : (runUpdates intentId capabilityToken runId).map Prod.fst =
        ["PAYBOND_INTENT_ID".toList, "PAYBOND_CAPABILITY_TOKEN".toList, "PAYBOND_RUN_ID".toList] := rfl
    rw [hnames]
    decide
  names := by
    have hall : ["PAYBOND_INTENT_ID".toList, "PAYBOND_CAPABILITY_TOKEN".toList,
        "PAYBOND_RUN_ID".toList].all (fun name => name ≠ [] && name.all isNameChar) = true := by
      decide
    intro update hupdate
    have hmem : update.1 ∈ (runUpdates intentId capabilityToken runId).map Prod.fst :=
      List.mem_map_of_mem hupdate
    have hname := List.all_eq_true.mp hall _ hmem
    rw [Bool.and_eq_true, decide_eq_true_eq, List.all_eq_true] at hname
    exact hname
  values := by
    intro update hupdate
    simp only [runUpdates, List.mem_cons, List.not_mem_nil, or_false] at hupdate
    rcases hupdate with rfl | rfl | rfl
    · exact hintent
    · exact htoken
    · exact hrun

/-- The writer of a login loses nothing exactly when the text around the line and the key allow it,
and that of a run when no value has a character that is escaped. -/
theorem writesOnly_iff (existing : List Char) :
    (∀ {rawKey next : List Char} {force : Bool}, KeyText rawKey →
      replaceOrAppendEnvValue existing rawKey force = .ok next →
        (WritesOnly existing next [(apiKeyName, rawKey)] ↔ KeepsAll existing rawKey)) ∧
    ∀ {intentId capabilityToken runId : List Char}, KeyText intentId →
      KeyText capabilityToken → KeyText runId →
        (WritesOnly existing (appendAgentRunEnvVars existing intentId capabilityToken runId)
            (runUpdates intentId capabilityToken runId) ↔
          ∀ value ∈ [intentId, capabilityToken, runId], ∀ c ∈ value, Unescaped c) := by
  refine ⟨writesOnly_login_iff, fun hintent htoken hrun => ?_⟩
  rw [appendAgentRunEnvVars, writesOnly_run_iff (updates_runUpdates hintent htoken hrun)]
  simp [runUpdates]

def sandboxKey : List Char := "pb_sandbox_1".toList

theorem keyText_sandboxKey : KeyText sandboxKey where
  nonempty := by decide
  unbroken := List.all_eq_true.mp (by decide : sandboxKey.all (fun c => isLineBreak c = false) = true)
    |> fun hall c hc => of_decide_eq_true (hall c hc)
  stripped := by decide

/-- A key behind another variable, and the variables of a run in an empty file. -/
theorem writesOnly_iff_sandboxKey :
    (WritesOnly "MODE=dev".toList "MODE=dev\nPAYBOND_API_KEY=pb_sandbox_1\n".toList
        [(apiKeyName, sandboxKey)] ↔ KeepsAll "MODE=dev".toList sandboxKey) ∧
      (WritesOnly [] (appendAgentRunEnvVars [] sandboxKey sandboxKey sandboxKey)
          (runUpdates sandboxKey sandboxKey sandboxKey) ↔
        ∀ value ∈ [sandboxKey, sandboxKey, sandboxKey], ∀ c ∈ value, Unescaped c) := by
  have hwrite : replaceOrAppendEnvValue "MODE=dev".toList sandboxKey false =
      .ok "MODE=dev\nPAYBOND_API_KEY=pb_sandbox_1\n".toList := by
    decide +kernel
  exact ⟨(writesOnly_iff "MODE=dev".toList).1 keyText_sandboxKey hwrite,
    (writesOnly_iff []).2 keyText_sandboxKey keyText_sandboxKey keyText_sandboxKey⟩

/-- A match up to the next newline takes along a variable behind a form feed. -/
theorem not_writesOnly : ¬∀ (existing rawKey next : List Char) (force : Bool), KeyText rawKey →
    replaceOrAppendEnvValue existing rawKey force = .ok next →
      WritesOnly existing next [(apiKeyName, rawKey)] := by
  intro hclaim
  have hwrite : replaceOrAppendEnvValue "PAYBOND_API_KEY=old\x0cMODE=dev\n".toList sandboxKey true =
      .ok "PAYBOND_API_KEY=pb_sandbox_1\n".toList := by
    decide +kernel
  obtain ⟨-, hothers⟩ := hclaim _ _ _ _ keyText_sandboxKey hwrite
  have hmode : IsVariable "MODE".toList := isVariable_of_isNameChar (by decide)
    (List.all_eq_true.mp (by decide : "MODE".toList.all isNameChar = true))
  have hsame := hothers "MODE".toList hmode (by decide)
  have hlost : readEnvFileValue "PAYBOND_API_KEY=pb_sandbox_1\n".toList "MODE".toList = none := by
    decide +kernel
  have hread : readEnvFileValue "PAYBOND_API_KEY=old\x0cMODE=dev\n".toList "MODE".toList =
      some "dev".toList := by
    decide +kernel
  rw [hlost, hread] at hsame
  cases hsame

end PaybondKit.Cli
