import PaybondKit.Cli.EnvLines

/-!
# Quoted values

A value that is not plain is written in the quotes of JSON, and the reader takes away the quotes but
not the escapes. What is read is what was written when nothing was escaped, or when a replacement
has undone the escapes.
-/

namespace PaybondKit.Cli

/-- A key as the writers are given it. -/
structure KeyText (key : List Char) : Prop where
  nonempty : key ≠ []
  unbroken : ∀ c ∈ key, isLineBreak c = false
  stripped : stripLine key = key

/-- The character is printable ASCII and neither a quote nor a backslash. -/
def Unescaped (c : Char) : Prop := 0x20 ≤ c.toNat ∧ c.toNat ≤ 0x7e ∧ c ≠ '"' ∧ c ≠ '\\'

instance (c : Char) : Decidable (Unescaped c) := inferInstanceAs (Decidable (_ ∧ _ ∧ _ ∧ _))

/-! ## Texts without space around them -/

section Ends

variable {text key : List Char}

theorem stripLine_eq_self (hhead : ∀ c ∈ text.head?, isPySpace c = false)
    (hlast : ∀ c ∈ text.getLast?, isPySpace c = false) : stripLine text = text := by
  cases text with
  | nil => rfl
  | cons c text =>
      rw [stripLine, List.dropWhile_cons_of_neg (by simp [hhead c rfl]),
        List.rdropWhile_eq_self_iff]
      intro hne
      rw [hlast _ (List.getLast?_eq_some_getLast hne)]
      exact Bool.false_ne_true

theorem head_of_stripped (hstripped : stripLine text = text) :
    ∀ c ∈ text.head?, isPySpace c = false := by
  intro c hc
  obtain ⟨rest, rfl⟩ := List.head?_eq_some_iff.mp hc
  exact not_isPySpace_of_stripLine hstripped

theorem last_of_stripped (hstripped : stripLine text = text) :
    ∀ c ∈ text.getLast?, isPySpace c = false := by
  intro c hc
  have hne : text ≠ [] := by
    rintro rfl
    cases hc
  have hdropped : (text.dropWhile isPySpace).rdropWhile isPySpace = text := hstripped
  have hlonger : text.dropWhile isPySpace = text := by
    refine (List.dropWhile_suffix isPySpace).eq_of_length_le ?_
    have hle := (List.rdropWhile_prefix isPySpace (text.dropWhile isPySpace)).length_le
    rwa [hdropped] at hle
  rw [hlonger, List.rdropWhile_eq_self_iff] at hdropped
  have hlast := hdropped hne
  rw [List.getLast?_eq_some_getLast hne] at hc
  rw [Option.some.inj hc] at hlast
  exact Bool.eq_false_iff.mpr hlast

end Ends

/-! ## Characters that are written otherwise -/

/-- A character is written as it is, or as a longer text without space at its ends. -/
structure Written (write : Char → List Char) (c : Char) : Prop where
  nonempty : write c ≠ []
  same : write c = [c] ∨ 2 ≤ (write c).length
  head : write c ≠ [c] → ∀ d ∈ (write c).head?, isPySpace d = false
  last : write c ≠ [c] → ∀ d ∈ (write c).getLast?, isPySpace d = false

section Written

variable {write : Char → List Char} {key : List Char}

theorem length_flatMap_le (hwritten : ∀ c ∈ key, Written write c) :
    key.length ≤ (key.flatMap write).length := by
  induction key with
  | nil => exact le_refl _
  | cons c key ih =>
      have hc := List.length_pos_iff.mpr (hwritten c List.mem_cons_self).nonempty
      have hrest := ih fun d hd => hwritten d (List.mem_cons_of_mem _ hd)
      rw [List.flatMap_cons, List.length_append, List.length_cons]
      omega

theorem flatMap_eq_self_iff (hwritten : ∀ c ∈ key, Written write c) :
    key.flatMap write = key ↔ ∀ c ∈ key, write c = [c] := by
  constructor
  · intro hsame
    induction key with
    | nil => exact fun c hc => by cases hc
    | cons c key ih =>
        have hrest := fun d hd => hwritten d (List.mem_cons_of_mem _ hd)
        have hfirst : write c = [c] := by
          refine (hwritten c List.mem_cons_self).same.resolve_right ?_
          intro hlong
          have hlength := congrArg List.length hsame
          have hle := length_flatMap_le hrest
          rw [List.flatMap_cons, List.length_append, List.length_cons] at hlength
          omega
        rw [List.flatMap_cons, hfirst] at hsame
        intro d hd
        rcases List.mem_cons.mp hd with rfl | hd
        · exact hfirst
        · exact ih hrest (List.cons.inj hsame).2 d hd
  · intro hsame
    induction key with
    | nil => rfl
    | cons c key ih =>
        rw [List.flatMap_cons, hsame c List.mem_cons_self,
          ih (fun d hd => hwritten d (List.mem_cons_of_mem _ hd))
            fun d hd => hsame d (List.mem_cons_of_mem _ hd)]
        rfl

theorem stripLine_flatMap (hkey : KeyText key) (hwritten : ∀ c ∈ key, Written write c) :
    stripLine (key.flatMap write) = key.flatMap write := by
  refine stripLine_eq_self ?_ ?_
  · intro d hd
    cases key with
    | nil => cases hd
    | cons c key =>
        have hc := hwritten c List.mem_cons_self
        rw [List.flatMap_cons, List.head?_append_of_ne_nil _ hc.nonempty] at hd
        by_cases hsame : write c = [c]
        · rw [hsame] at hd
          exact head_of_stripped hkey.stripped d hd
        · exact hc.head hsame d hd
  · intro d hd
    obtain ⟨front, c, rfl⟩ := (List.eq_nil_or_concat' key).resolve_left hkey.nonempty
    have hc := hwritten c (by simp)
    rw [List.flatMap_append, List.flatMap_singleton, List.getLast?_append_of_ne_nil _ hc.nonempty] at hd
    by_cases hsame : write c = [c]
    · rw [hsame] at hd
      refine last_of_stripped hkey.stripped d ?_
      rw [List.getLast?_append_of_ne_nil _ (by simp)]
      exact hd
    · exact hc.last hsame d hd

/-- What is read of a quoted text. -/
theorem envValue_quoted {body : List Char} (hbody : stripLine body = body) (hne : body ≠ []) :
    envValue ('"' :: body ++ ['"']) = some body := by
  have hstrip : stripLine ('"' :: body ++ ['"']) = '"' :: body ++ ['"'] := by
    refine stripLine_eq_self ?_ ?_
    · rintro c ⟨⟩
      decide
    · intro c hc
      rw [List.getLast?_append_of_ne_nil _ (by simp)] at hc
      obtain rfl := Option.some.inj hc
      decide
  have hquoted : quotedBy '"' ('"' :: body ++ ['"']) = true := by
    rw [quotedBy, List.getLast?_append_of_ne_nil _ (by simp)]
    rfl
  have hunquoted : unquoted ('"' :: body ++ ['"']) = body := by
    rw [unquoted, hquoted, Bool.or_true, if_pos rfl, if_pos (by simp)]
    simp
  rw [envValue, hstrip, hunquoted, hbody, if_neg hne]

end Written

/-! ## JSON escapes -/

section Escapes

variable {key : List Char}

/-- What is true of the hexadecimal digits. -/
theorem digitChar_all {p : Char → Bool} (hall : "0123456789abcdef".toList.all p = true) (n : ℕ) :
    p (Nat.digitChar (n % 16)) = true := by
  have hdigits : ∀ digit < 16, Nat.digitChar digit ∈ "0123456789abcdef".toList := by decide
  exact List.all_eq_true.mp hall _ (hdigits _ (Nat.mod_lt _ (by decide)))

theorem shortEscape_all {p : Char → Bool} (hall : "\"\\nrtfb".toList.all p = true) {c letter : Char}
    (hshort : shortEscape c = some letter) : p letter = true := by
  have hmem := mem_shortEscapes hshort
  have hletter : letter ∈ "\"\\nrtfb".toList := by
    simp only [shortEscapes, List.mem_cons, Prod.mk.injEq, List.not_mem_nil, or_false] at hmem
    rcases hmem with ⟨-, rfl⟩ | ⟨-, rfl⟩ | ⟨-, rfl⟩ | ⟨-, rfl⟩ | ⟨-, rfl⟩ | ⟨-, rfl⟩ | ⟨-, rfl⟩ <;>
      decide
  exact List.all_eq_true.mp hall _ hletter

theorem unicodeEscape_all {p : Char → Bool} (hall : "\\u0123456789abcdef".toList.all p = true) (n : ℕ) :
    ∀ c ∈ unicodeEscape n, p c = true := by
  have hdigits : "0123456789abcdef".toList.all p = true := by
    rw [List.all_eq_true] at hall ⊢
    exact fun c hc => hall c (List.mem_cons_of_mem _ (List.mem_cons_of_mem _ hc))
  have hstart := List.all_eq_true.mp hall
  intro c hc
  simp only [unicodeEscape, List.mem_cons, List.not_mem_nil, or_false] at hc
  rcases hc with rfl | rfl | rfl | rfl | rfl | rfl
  · exact hstart _ (by decide)
  · exact hstart _ (by decide)
  · exact digitChar_all hdigits _
  · exact digitChar_all hdigits _
  · exact digitChar_all hdigits _
  · exact digitChar_all hdigits _

/-- A character escaped by number is a text of backslashes and digits. -/
theorem escapedByNumber_all {p : Char → Bool} {c : Char}
    (hall : "\\u0123456789abcdef".toList.all p = true) (hc : EscapedByNumber c) :
    2 ≤ (escapeAscii c).length ∧ ∀ d ∈ escapeAscii c, p d = true := by
  rcases hc with ⟨-, hescape⟩ | ⟨-, hescape⟩
  · rw [hescape]
    exact ⟨by simp [unicodeEscape], unicodeEscape_all hall _⟩
  · rw [hescape]
    refine ⟨by simp [unicodeEscape], ?_⟩
    intro d hd
    rcases List.mem_append.mp hd with hd | hd
    · exact unicodeEscape_all hall _ d hd
    · exact unicodeEscape_all hall _ d hd

theorem written_escapeAscii (c : Char) : Written escapeAscii c := by
  have hlong : 2 ≤ (escapeAscii c).length → (∀ d ∈ escapeAscii c, isPySpace d = false) →
      Written escapeAscii c := by
    intro hlength hspace
    refine ⟨?_, .inr hlength, fun _ d hd => ?_, fun _ d hd => ?_⟩
    · rintro hnil
      rw [hnil] at hlength
      cases hlength
    · exact hspace d (List.mem_of_head? hd)
    · exact hspace d (List.mem_of_getLast? hd)
  obtain ⟨letter, hshort, hescape⟩ | ⟨-, -, hescape⟩ | hnumber := escapeAscii_cases c
  · refine hlong (by rw [hescape]; exact le_refl _) ?_
    intro d hd
    rw [hescape, List.mem_cons, List.mem_singleton] at hd
    rcases hd with rfl | rfl
    · decide
    · simpa using shortEscape_all (p := fun c => !isPySpace c) (by decide) hshort
  · refine ⟨by simp [hescape], .inl hescape, fun h => absurd hescape h, fun h => absurd hescape h⟩
  · obtain ⟨hlength, hall⟩ := escapedByNumber_all (p := fun c => !isPySpace c) (by decide) hnumber
    exact hlong hlength fun d hd => by simpa using hall d hd

theorem escapeAscii_eq_self_iff (c : Char) : escapeAscii c = [c] ↔ Unescaped c := by
  unfold escapeAscii Unescaped
  cases hshort : shortEscape c with
  | some letter =>
      refine iff_of_false (by simp) ?_
      rintro ⟨hlow, -, hquote, hbackslash⟩
      have hmem := mem_shortEscapes hshort
      simp only [shortEscapes, List.mem_cons, Prod.mk.injEq, List.not_mem_nil, or_false] at hmem
      rcases hmem with ⟨rfl, -⟩ | ⟨rfl, -⟩ | ⟨rfl, -⟩ | ⟨rfl, -⟩ | ⟨rfl, -⟩ | ⟨rfl, -⟩ | ⟨rfl, -⟩
      · exact hquote rfl
      · exact hbackslash rfl
      all_goals exact absurd hlow (by decide)
  | none =>
      have hplain : c ≠ '"' ∧ c ≠ '\\' := by
        constructor
        · rintro rfl
          cases hshort
        · rintro rfl
          cases hshort
      dsimp only
      by_cases hprintable : 0x20 ≤ c.toNat ∧ c.toNat ≤ 0x7e
      · rw [if_pos hprintable]
        exact iff_of_true rfl ⟨hprintable.1, hprintable.2, hplain⟩
      · rw [if_neg hprintable]
        refine iff_of_false ?_ fun h => hprintable ⟨h.1, h.2.1⟩
        split <;> simp [unicodeEscape]

end Escapes

/-! ## Values on a line -/

/-- A value that ends its line. -/
structure EndsLine (text : List Char) : Prop where
  unbroken : ∀ c ∈ text, isLineBreak c = false
  last : ∃ c ∈ text.getLast?, isPySpace c = false

section Values

variable {key name text : List Char}

theorem endsLine_key (hkey : KeyText key) : EndsLine key where
  unbroken := hkey.unbroken
  last := ⟨key.getLast hkey.nonempty, List.getLast?_eq_some_getLast hkey.nonempty,
    last_of_stripped hkey.stripped _ (List.getLast?_eq_some_getLast hkey.nonempty)⟩

theorem endsLine_quoted {body : List Char} (hbody : ∀ c ∈ body, isLineBreak c = false) :
    EndsLine ('"' :: body ++ ['"']) where
  unbroken := by
    intro c hc
    rw [List.mem_append, List.mem_cons, List.mem_singleton] at hc
    rcases hc with (rfl | hc) | rfl
    · decide
    · exact hbody c hc
    · decide
  last := ⟨'"', by rw [List.getLast?_append_of_ne_nil _ (by simp)]; rfl, by decide⟩

/-- The line of a variable is read as it is written. -/
theorem contentLines_assignment (hne : name ≠ []) (hname : ∀ c ∈ name, isNameChar c = true)
    (htext : EndsLine text) :
    stripLine (name ++ '=' :: text) = name ++ '=' :: text ∧
      (∀ c ∈ name ++ '=' :: text, isLineBreak c = false) ∧
      contentLines (name ++ '=' :: text) = [name ++ '=' :: text] := by
  have hvariable := isVariable_of_isNameChar hne hname
  have hunbroken : ∀ c ∈ name ++ '=' :: text, isLineBreak c = false := by
    intro c hc
    rw [List.mem_append, List.mem_cons] at hc
    rcases hc with hc | rfl | hc
    · refine Bool.eq_false_iff.mpr fun hbreak => ?_
      have hspace := (hvariable.2 c hc).2
      rw [isPySpace_of_isLineBreak hbreak] at hspace
      cases hspace
    · decide
    · exact htext.unbroken c hc
  have hstrip : stripLine (name ++ '=' :: text) = name ++ '=' :: text := by
    refine stripLine_eq_self ?_ ?_
    · intro c hc
      rw [List.head?_append_of_ne_nil _ hne] at hc
      exact (hvariable.2 c (List.mem_of_head? hc)).2
    · intro c hc
      obtain ⟨d, hd, hspace⟩ := htext.last
      have hlast : (name ++ '=' :: text).getLast? = text.getLast? := by
        have hnonempty : text ≠ [] := by
          rintro rfl
          cases hd
        rw [List.getLast?_append_of_ne_nil _ (by simp), List.getLast?_cons_of_ne_nil hnonempty]
      rw [hlast, hd] at hc
      obtain rfl := Option.some.inj hc
      exact hspace
  refine ⟨hstrip, hunbroken, ?_⟩
  rw [contentLines_of_not_isLineBreak hunbroken, hstrip, if_neg (by simp)]

theorem unescaped_of_isPlainChar {c : Char} (hplain : isPlainChar c = true) : Unescaped c := by
  simp only [isPlainChar, Bool.or_eq_true, Bool.and_eq_true, decide_eq_true_eq] at hplain
  have hrange : ∀ {low high : Char}, low ≤ c → c ≤ high → '#'.toNat ≤ low.toNat →
      high.toNat ≤ 'z'.toNat → c ≠ '\\' → Unescaped c := by
    intro low high hlow hhigh hfirst hlast hbackslash
    have hlow : low.toNat ≤ c.toNat := hlow
    have hhigh : c.toNat ≤ high.toNat := hhigh
    have hbounds : 0x23 ≤ c.toNat ∧ c.toNat ≤ 0x7a := ⟨hfirst.trans hlow, hhigh.trans hlast⟩
    refine ⟨by omega, by omega, ?_, hbackslash⟩
    rintro rfl
    exact absurd hbounds.1 (by decide)
  rcases hplain with ((⟨hlow, hhigh⟩ | ⟨hlow, hhigh⟩) | ⟨hlow, hhigh⟩) | hmem
  · exact hrange hlow hhigh (by decide) (by decide) (by rintro rfl; exact absurd hhigh (by decide))
  · exact hrange hlow hhigh (by decide) (by decide) (by rintro rfl; exact absurd hlow (by decide))
  · exact hrange hlow hhigh (by decide) (by decide) (by rintro rfl; exact absurd hhigh (by decide))
  · have hall : "_./:@+-".toList.all (fun c => decide (Unescaped c)) = true := by decide
    simpa using List.all_eq_true.mp hall c (List.contains_iff_mem.mp hmem)

/-- A key without escapes is the value of its line. -/
theorem envValue_key (hkey : KeyText key) (hquote : '"' ∉ key) (happ : '\'' ∉ key) :
    envValue key = some key := by
  have hunquoted : unquoted key = key := by
    have hnot : ∀ quote, quote ∉ key → quotedBy quote key = false := by
      intro quote hmem
      rw [quotedBy, Bool.and_eq_false_iff]
      left
      rw [decide_eq_false_iff_not]
      exact fun hhead => hmem (List.mem_of_head? hhead)
    rw [unquoted, hnot _ hquote, hnot _ happ]
    rfl
  rw [envValue, hkey.stripped, hunquoted, hkey.stripped, if_neg hkey.nonempty]

theorem endsLine_quoteEnvValue (hkey : KeyText key) : EndsLine (quoteEnvValue key) := by
  unfold quoteEnvValue
  split
  next => exact endsLine_key hkey
  next =>
    refine endsLine_quoted ?_
    intro c hc
    obtain ⟨d, hd, hc⟩ := List.mem_flatMap.mp hc
    obtain ⟨letter, hshort, hescape⟩ | ⟨-, -, hescape⟩ | hnumber := escapeAscii_cases d
    · rw [hescape, List.mem_cons, List.mem_singleton] at hc
      rcases hc with rfl | rfl
      · decide
      · simpa using shortEscape_all (p := fun c => !isLineBreak c) (by decide) hshort
    · rw [hescape, List.mem_singleton] at hc
      rw [hc]
      exact hkey.unbroken d hd
    · simpa using (escapedByNumber_all (p := fun c => !isLineBreak c) (by decide) hnumber).2 c hc

/-- A quoted value is read back when none of its characters is escaped. -/
theorem envValue_quoteEnvValue_iff (hkey : KeyText key) :
    envValue (quoteEnvValue key) = some key ↔ ∀ c ∈ key, Unescaped c := by
  unfold quoteEnvValue
  split
  next hplain =>
    have hall := List.all_eq_true.mp hplain.2
    have hnot : ∀ c, isPlainChar c = false → c ∉ key := by
      intro c hc hmem
      rw [hall c hmem] at hc
      cases hc
    exact iff_of_true (envValue_key hkey (hnot _ (by decide)) (hnot _ (by decide)))
      fun c hc => unescaped_of_isPlainChar (hall c hc)
  next =>
    have hwritten : ∀ c ∈ key, Written escapeAscii c := fun c _ => written_escapeAscii c
    have hne : key.flatMap escapeAscii ≠ [] := by
      have hle := length_flatMap_le hwritten
      have hpos := List.length_pos_iff.mpr hkey.nonempty
      exact List.length_pos_iff.mp (by omega)
    rw [envValue_quoted (stripLine_flatMap hkey hwritten) hne, Option.some.injEq,
      flatMap_eq_self_iff hwritten]
    simp only [escapeAscii_eq_self_iff]

/-! ## Replacements -/

theorem expandTemplate_cons {c : Char} {rest : List Char} (hc : c ≠ '\\') :
    expandTemplate (c :: rest) = (expandTemplate rest).map (c :: ·) := by
  rw [expandTemplate.eq_4]
  · rintro rfl
    exact absurd rfl hc
  · rintro d tail rfl
    exact absurd rfl hc

theorem expandTemplate_append {front rest : List Char} (hfront : '\\' ∉ front) :
    expandTemplate (front ++ rest) = (expandTemplate rest).map (front ++ ·) := by
  induction front with
  | nil => simp
  | cons c front ih =>
      rw [List.mem_cons, not_or] at hfront
      rw [List.cons_append, expandTemplate_cons (Ne.symm hfront.1), ih hfront.2, Option.map_map]
      rfl

/-- Of the escapes of JSON a replacement keeps that of the quote. -/
def keptEscape (c : Char) : List Char := if c = '"' then ['\\', '"'] else [c]

theorem templateEscape_shortEscape {c letter : Char} (hshort : shortEscape c = some letter) :
    templateEscape letter = some (keptEscape c) := by
  have hmem := mem_shortEscapes hshort
  simp only [shortEscapes, List.mem_cons, Prod.mk.injEq, List.not_mem_nil, or_false] at hmem
  rcases hmem with ⟨rfl, rfl⟩ | ⟨rfl, rfl⟩ | ⟨rfl, rfl⟩ | ⟨rfl, rfl⟩ | ⟨rfl, rfl⟩ | ⟨rfl, rfl⟩ |
    ⟨rfl, rfl⟩ <;> decide

theorem expandTemplate_escaped {rest expanded : List Char}
    (hexpand : expandTemplate (key.flatMap escapeAscii ++ rest) = some expanded) :
    ∃ tail, expandTemplate rest = some tail ∧ expanded = key.flatMap keptEscape ++ tail := by
  induction key generalizing expanded with
  | nil => exact ⟨expanded, hexpand, rfl⟩
  | cons c key ih =>
      rw [List.flatMap_cons, List.append_assoc] at hexpand
      obtain ⟨letter, hshort, hescape⟩ | ⟨hquote, hbackslash, hescape⟩ | hnumber :=
        escapeAscii_cases c
      · rw [hescape, List.cons_append, List.singleton_append, expandTemplate,
          templateEscape_shortEscape hshort, Option.bind_some] at hexpand
        obtain ⟨inner, hinner, rfl⟩ := Option.map_eq_some_iff.mp hexpand
        obtain ⟨tail, htail, rfl⟩ := ih hinner
        exact ⟨tail, htail, by rw [List.flatMap_cons, List.append_assoc]⟩
      · rw [hescape, List.singleton_append, expandTemplate_cons hbackslash] at hexpand
        obtain ⟨inner, hinner, rfl⟩ := Option.map_eq_some_iff.mp hexpand
        obtain ⟨tail, htail, rfl⟩ := ih hinner
        exact ⟨tail, htail, by rw [List.flatMap_cons, keptEscape, if_neg hquote]; rfl⟩
      · -- a letter without a meaning follows the backslash
        obtain ⟨digits, hescape⟩ := escapeAscii_number_head hnumber
        have hbad : templateEscape 'u' = none := by decide
        rw [hescape, List.cons_append, List.cons_append, expandTemplate, hbad] at hexpand
        cases hexpand

theorem written_keptEscape (c : Char) : Written keptEscape c := by
  by_cases hc : c = '"'
  · have hkept : keptEscape c = ['\\', '"'] := if_pos hc
    refine ⟨by simp [hkept], .inr (by rw [hkept]; exact le_refl _), fun _ d hd => ?_, fun _ d hd => ?_⟩
    · rw [hkept] at hd
      obtain rfl := Option.some.inj hd
      decide
    · rw [hkept] at hd
      obtain rfl := Option.some.inj hd
      decide
  · have hkept : keptEscape c = [c] := if_neg hc
    exact ⟨by simp [hkept], .inl hkept, fun h => absurd hkept h, fun h => absurd hkept h⟩

/-- The replacement is a line of the API key, with the value when no quote is in it. -/
theorem expandTemplate_apiKeyLine (hkey : KeyText key) {line : List Char}
    (hexpand : expandTemplate (apiKeyLine key) = some line) :
    ∃ value, line = apiKeyName ++ '=' :: value ∧ EndsLine value ∧
      (envValue value = some key ↔ '"' ∉ key) := by
  have hname : '\\' ∉ apiKeyName ++ ['='] := by decide
  have hsplit : apiKeyLine key = (apiKeyName ++ ['=']) ++ quoteEnvValue key := by
    rw [apiKeyLine, List.append_assoc]
    rfl
  rw [hsplit, expandTemplate_append hname] at hexpand
  obtain ⟨value, hvalue, rfl⟩ := Option.map_eq_some_iff.mp hexpand
  refine ⟨value, by rw [List.append_assoc]; rfl, ?_⟩
  unfold quoteEnvValue at hvalue
  split at hvalue
  next hplain =>
    have hall := List.all_eq_true.mp hplain.2
    have hnot : ∀ c, isPlainChar c = false → c ∉ key := by
      intro c hc hmem
      rw [hall c hmem] at hc
      cases hc
    have hsame := @expandTemplate_append key [] (hnot _ (by decide))
    rw [List.append_nil, hvalue] at hsame
    have hkept : value = key := by
      have hempty : expandTemplate [] = some [] := rfl
      rw [hempty, Option.map_some, List.append_nil] at hsame
      exact Option.some.inj hsame
    subst hkept
    exact ⟨endsLine_key hkey, iff_of_true (envValue_key hkey (hnot _ (by decide)) (hnot _ (by decide)))
      (hnot _ (by decide))⟩
  next =>
    rw [List.cons_append, expandTemplate_cons (by decide)] at hvalue
    obtain ⟨inner, hinner, rfl⟩ := Option.map_eq_some_iff.mp hvalue
    obtain ⟨tail, htail, rfl⟩ := expandTemplate_escaped hinner
    obtain rfl : ['"'] = tail := Option.some.inj htail
    have hwritten : ∀ c ∈ key, Written keptEscape c := fun c _ => written_keptEscape c
    have hne : key.flatMap keptEscape ≠ [] := by
      have hle := length_flatMap_le hwritten
      have hpos := List.length_pos_iff.mpr hkey.nonempty
      exact List.length_pos_iff.mp (by omega)
    refine ⟨endsLine_quoted ?_, ?_⟩
    · intro c hc
      obtain ⟨d, hd, hc⟩ := List.mem_flatMap.mp hc
      unfold keptEscape at hc
      split at hc
      next =>
        rw [List.mem_cons, List.mem_singleton] at hc
        rcases hc with rfl | rfl <;> decide
      next =>
        obtain rfl := List.mem_singleton.mp hc
        exact hkey.unbroken _ hd
    · have hread := envValue_quoted (stripLine_flatMap hkey hwritten) hne
      rw [List.cons_append] at hread
      rw [hread, Option.some.injEq, flatMap_eq_self_iff hwritten]
      constructor
      · intro hall hmem
        have hquote := hall _ hmem
        exact absurd hquote (by decide)
      · intro hnot c hc
        refine if_neg ?_
        rintro rfl
        exact hnot hc

end Values

end PaybondKit.Cli
