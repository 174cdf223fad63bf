import PaybondKit.Agent.RegistryText
import PaybondKit.Policy.YamlPrinted

/-!
# Printed lines

What the parser makes of a line that is printed from a key and a text, and of the scalars that are
words or numbers.
-/

namespace PaybondKit.Policy

open Agent (PyExc)

/-! ## Stripped texts -/

theorem stripLine_eq_self_iff {line : List Char} : stripLine line = line ↔
    (∀ c ∈ line.head?, isPySpace c = false) ∧ ∀ c ∈ line.getLast?, isPySpace c = false := by
  constructor
  · intro hline
    refine ⟨?_, ?_⟩
    · intro c hc
      obtain ⟨rest, rfl⟩ := List.head?_eq_some_iff.mp hc
      exact not_isPySpace_of_stripLine hline
    · intro c hc
      obtain ⟨before, rfl⟩ := List.getLast?_eq_some_iff.mp hc
      by_contra hspace
      have hshort := congrArg List.length hline
      rw [stripLine_concat (Bool.not_eq_false _ ▸ hspace), List.length_append] at hshort
      have hmost : (stripLine before).length ≤ before.length :=
        (List.rdropWhile_prefix _ _).length_le.trans (List.dropWhile_suffix _).length_le
      simp only [List.length_singleton] at hshort
      omega
  · rintro ⟨hhead, hlast⟩
    have hfront : line.dropWhile isPySpace = line := by
      cases line with
      | nil => rfl
      | cons c rest => exact List.dropWhile_cons_of_neg (by simp [hhead c rfl])
    rw [stripLine, hfront]
    induction line using List.reverseRecOn with
    | nil => rfl
    | append_singleton before c ih =>
        exact List.rdropWhile_concat_neg _ _ _ (by simp [hlast c (by simp)])

theorem pyStrip_eq_self_iff {text : String} :
    pyStrip text = text ↔ stripLine text.toList = text.toList := by
  rw [← String.toList_inj, toList_pyStrip]
  rfl

theorem stripLine_append {before after : List Char} (hbefore : stripLine before = before)
    (hafter : stripLine after = after) (middle : List Char) (hne : before ≠ []) (hne' : after ≠ []) :
    stripLine (before ++ middle ++ after) = before ++ middle ++ after := by
  rw [stripLine_eq_self_iff] at hbefore hafter ⊢
  refine ⟨?_, ?_⟩
  · rw [List.append_assoc, List.head?_append_of_ne_nil _ hne]
    exact hbefore.1
  · rw [List.getLast?_append_of_ne_nil _ hne']
    exact hafter.2

/-! ## A line at an indentation -/

def printedLine (indent : ℕ) (text : String) : YamlLine where
  indent := indent
  trimmed := pyStrip text
  raw := String.ofList (List.replicate indent ' ' ++ text.toList)
  stripped := pyStrip_pyStrip _

/-- A text that is its own strip, not empty and no comment. -/
structure LineText (text : String) : Prop where
  stripped : pyStrip text = text
  nonempty : text ≠ ""
  no_comment : text.toList.head? ≠ some '#'

theorem LineText.ne_nil {text : String} (htext : LineText text) : text.toList ≠ [] := by
  intro hnil
  exact htext.nonempty (String.toList_inj.mp hnil)

theorem yamlLine?_printed {text : String} (htext : LineText text) (indent : ℕ) :
    yamlLine? (List.replicate indent ' ' ++ text.toList) = some (printedLine indent text) := by
  have hstripped := pyStrip_eq_self_iff.mp htext.stripped
  have htrimmed : pyStrip (String.ofList (List.replicate indent ' ' ++ text.toList)) =
      pyStrip text := by
    rw [← String.toList_inj, toList_pyStrip, toList_pyStrip, String.toList_ofList]
    exact stripLine_append_left fun c hc => (List.eq_of_mem_replicate hc) ▸ rfl
  have hindent : ((List.replicate indent ' ' ++ text.toList).takeWhile (· = ' ')).length =
      indent := by
    have hspaces : ∀ c ∈ List.replicate indent ' ', decide (c = ' ') = true := fun c hc =>
      decide_eq_true (List.eq_of_mem_replicate hc)
    rw [List.takeWhile_append_of_pos hspaces, List.length_append, List.length_replicate]
    cases hchars : text.toList with
    | nil => rfl
    | cons c rest =>
        have hc : c ≠ ' ' := by
          rintro rfl
          rw [hchars] at hstripped
          exact absurd (not_isPySpace_of_stripLine hstripped) (by decide)
        rw [List.takeWhile_cons_of_neg (by simp [hc])]
        rfl
  unfold yamlLine?
  dsimp only
  rw [if_neg]
  · congr 1
    unfold printedLine
    congr 1
  · rw [htrimmed, htext.stripped]
    exact not_or.mpr ⟨htext.nonempty, htext.no_comment⟩

/-! ## Keys and texts -/

/-- A key that can be printed in front of a colon. -/
structure KeyText (key : String) : Prop where
  stripped : pyStrip key = key
  no_colon : ':' ∉ key.toList
  head : ∃ c rest, key.toList = c :: rest ∧ c ≠ '#' ∧ c ≠ '-'

/-- A text that can be printed behind a colon. -/
structure ValueText (text : String) : Prop where
  stripped : pyStrip text = text
  nonempty : text ≠ ""

section Keys

variable {key text : String} {indent : ℕ}

theorem KeyText.ne_nil (hkey : KeyText key) : key.toList ≠ [] := by
  obtain ⟨c, rest, hchars, -⟩ := hkey.head
  rw [hchars]
  exact List.cons_ne_nil _ _

theorem ValueText.ne_nil (htext : ValueText text) : text.toList ≠ [] := by
  intro hnil
  exact htext.nonempty (String.toList_inj.mp hnil)

theorem toList_member (key text : String) :
    (key ++ ": " ++ text).toList = key.toList ++ [':', ' '] ++ text.toList := by
  rw [String.toList_append, String.toList_append]
  rfl

theorem toList_heading (key : String) : (key ++ ":").toList = key.toList ++ [':'] := by
  rw [String.toList_append]
  rfl

theorem KeyText.lineText (hkey : KeyText key) {line rest : List Char}
    (hline : String.toList text = line) (hstart : line = key.toList ++ rest)
    (hstripped : stripLine line = line) : LineText text := by
  obtain ⟨c, tail, hchars, hcomment, -⟩ := hkey.head
  subst hline
  refine ⟨pyStrip_eq_self_iff.mpr hstripped, ?_, ?_⟩
  · rintro rfl
    rw [hchars, List.cons_append] at hstart
    cases hstart
  · rw [hstart, hchars, List.cons_append, List.head?_cons]
    exact fun h => hcomment (Option.some.inj h)

theorem lineText_member (hkey : KeyText key) (htext : ValueText text) :
    LineText (key ++ ": " ++ text) := by
  refine hkey.lineText (toList_member key text) (List.append_assoc _ _ _) ?_
  exact stripLine_append (pyStrip_eq_self_iff.mp hkey.stripped)
    (pyStrip_eq_self_iff.mp htext.stripped) _ hkey.ne_nil htext.ne_nil

theorem lineText_heading (hkey : KeyText key) : LineText (key ++ ":") := by
  refine hkey.lineText (toList_heading key) rfl ?_
  have hcolon : stripLine [':'] = [':'] := rfl
  have hstripped := stripLine_append (pyStrip_eq_self_iff.mp hkey.stripped) hcolon [] hkey.ne_nil
    (List.cons_ne_nil _ _)
  rwa [List.append_nil] at hstripped

theorem lineText_item (htext : ValueText text) : LineText ("- " ++ text) := by
  have hchars : ("- " ++ text).toList = ['-'] ++ [' '] ++ text.toList := by
    rw [String.toList_append]
    rfl
  refine ⟨pyStrip_eq_self_iff.mpr ?_, ?_, ?_⟩
  · rw [hchars]
    exact stripLine_append rfl (pyStrip_eq_self_iff.mp htext.stripped) _ (List.cons_ne_nil _ _)
      htext.ne_nil
  · intro hempty
    rw [hempty] at hchars
    cases hchars
  · rw [hchars]
    simp

theorem isItem_printed (hkey : KeyText key) {line : String} {rest : List Char}
    (hline : LineText line) (hstart : line.toList = key.toList ++ rest) :
    (printedLine indent line).isItem = false := by
  obtain ⟨c, tail, hchars, -, hdash⟩ := hkey.head
  have htrimmed : (printedLine indent line).trimmed.toList = c :: (tail ++ rest) := by
    change (pyStrip line).toList = _
    rw [hline.stripped, hstart, hchars, List.cons_append]
  rw [YamlLine.isItem, htrimmed, List.isPrefixOf_cons₂, Bool.and_eq_false_iff]
  exact .inl (beq_eq_false_iff_ne.mpr hdash.symm)

theorem yamlLineRe_colon (hkey : KeyText key) {line : String} {rest : List Char}
    (hline : line.toList = key.toList ++ ':' :: rest) :
    yamlLineRe line = some (key, String.ofList (rest.dropWhile isPySpace)) := by
  have hkeyChars : ∀ c ∈ key.toList, decide (c ≠ ':') = true := by
    intro c hc
    exact decide_eq_true fun h => hkey.no_colon (h ▸ hc)
  have hspan : line.toList.span (· ≠ ':') = (key.toList, ':' :: rest) := by
    rw [hline, List.span_eq_takeWhile_dropWhile, List.takeWhile_append_of_pos hkeyChars,
      List.dropWhile_append_of_pos hkeyChars]
    simp
  rw [yamlLineRe, hspan]
  exact (if_neg hkey.ne_nil).trans (by rw [String.ofList_toList])

theorem memberReading_member (hkey : KeyText key) (htext : ValueText text) :
    (printedLine indent (key ++ ": " ++ text)).memberReading = some (some key, some text) := by
  have hspace : (' ' :: text.toList).dropWhile isPySpace = text.toList := by
    rw [List.dropWhile_cons_of_pos rfl]
    obtain ⟨c, rest, hchars⟩ := List.exists_cons_of_ne_nil htext.ne_nil
    have hstripped := pyStrip_eq_self_iff.mp htext.stripped
    rw [hchars] at hstripped ⊢
    exact List.dropWhile_cons_of_neg (by simp [not_isPySpace_of_stripLine hstripped])
  have hline : yamlLineRe (printedLine indent (key ++ ": " ++ text)).trimmed =
      some (key, text) := by
    change yamlLineRe (pyStrip _) = _
    have hchars : (key ++ ": " ++ text).toList = key.toList ++ ':' :: ' ' :: text.toList := by
      simp [toList_member]
    rw [(lineText_member hkey htext).stripped, yamlLineRe_colon hkey hchars, hspace,
      String.ofList_toList]
  rw [YamlLine.memberReading, hline]
  dsimp only
  rw [htext.stripped, if_neg htext.nonempty, hkey.stripped]

theorem memberReading_heading (hkey : KeyText key) :
    (printedLine indent (key ++ ":")).memberReading = some (some key, none) := by
  have hline : yamlLineRe (printedLine indent (key ++ ":")).trimmed = some (key, "") := by
    change yamlLineRe (pyStrip _) = _
    rw [(lineText_heading hkey).stripped, yamlLineRe_colon hkey (toList_heading key)]
    rfl
  rw [YamlLine.memberReading, hline]
  dsimp only
  rw [if_pos (by rfl), hkey.stripped]

theorem itemReading_item (htext : ValueText text) (hcolon : ':' ∉ text.toList) :
    (printedLine indent ("- " ++ text)).itemReading = some (none, some text) := by
  have hchars : (printedLine indent ("- " ++ text)).trimmed.toList = '-' :: ' ' :: text.toList := by
    change (pyStrip _).toList = _
    rw [(lineText_item htext).stripped, String.toList_append]
    rfl
  have hitem : (printedLine indent ("- " ++ text)).isItem = true := by
    rw [YamlLine.isItem, hchars]
    rfl
  have hafter : (printedLine indent ("- " ++ text)).afterDash = text := by
    rw [YamlLine.afterDash, hchars]
    exact (congrArg pyStrip (String.ofList_toList (s := text))).trans htext.stripped
  have hall : ∀ c ∈ text.toList, decide (c ≠ ':') = true := by
    intro c hc
    exact decide_eq_true fun h => hcolon (h ▸ hc)
  have hline : yamlLineRe text = none := by
    rw [yamlLineRe, List.span_eq_takeWhile_dropWhile, List.dropWhile_eq_nil_iff.mpr hall]
  rw [YamlLine.itemReading, if_pos hitem, hafter, hline]

end Keys

/-! ## Words and numbers -/

/-- What `str` and `int` do with ASCII digits, and with the number that `str` has printed. -/
structure AsciiDigits (platform : TextPlatform) : Prop where
  isDigit : ∀ c : Char, c.toNat < 128 → platform.isDigit c = c.isDigit
  isDecimal : ∀ c : Char, c.toNat < 128 → platform.isDecimal c = c.isDigit
  parseInt : ∀ number : Int, platform.parseInt (toString number) = some number

def isWordChar (c : Char) : Bool := isLower c || isDigit c || c = '_' || c = '.' || c = '-'

/-- A lowercase letter, followed by the characters of a tool name. -/
structure Word (word : String) : Prop where
  head : ∃ c rest, word.toList = c :: rest ∧ isLower c = true
  chars : ∀ c ∈ word.toList, isWordChar c = true

section Words

variable {platform : TextPlatform} {word : String} {c : Char}

theorem isWordChar_of_isLower (hc : isLower c = true) : isWordChar c = true := by
  simp [isWordChar, hc]

/-- The characters of a word are no space, no colon and no uppercase letter. -/
theorem toNat_of_isWordChar (hc : isWordChar c = true) :
    45 ≤ c.toNat ∧ c.toNat ≤ 122 ∧ c.toNat ≠ 58 ∧ (c.toNat < 65 ∨ 90 < c.toNat) := by
  simp only [isWordChar, isLower, isDigit, Bool.or_eq_true, Bool.and_eq_true, decide_eq_true_eq,
    Char.le_def, UInt32.le_iff_toNat_le] at hc
  obtain (((⟨h, h'⟩ | ⟨h, h'⟩) | rfl) | rfl) | rfl := hc
  · have hleast : 97 ≤ c.toNat := h
    have hmost : c.toNat ≤ 122 := h'
    omega
  · have hleast : 48 ≤ c.toNat := h
    have hmost : c.toNat ≤ 57 := h'
    omega
  · decide
  · decide
  · decide

theorem toNat_of_isLower (hc : isLower c = true) : 97 ≤ c.toNat ∧ c.toNat ≤ 122 := by
  simp only [isLower, Bool.and_eq_true, decide_eq_true_eq, Char.le_def,
    UInt32.le_iff_toNat_le] at hc
  exact hc

theorem not_isPySpace_of_isWordChar (hc : isWordChar c = true) : isPySpace c = false := by
  have hrange := toNat_of_isWordChar hc
  simp only [isPySpace, Bool.or_eq_false_iff, Bool.and_eq_false_iff, decide_eq_false_iff_not]
  omega

theorem not_isLineBreak_of_isWordChar (hc : isWordChar c = true) : isLineBreak c = false := by
  have hrange := toNat_of_isWordChar hc
  simp only [isLineBreak, Bool.or_eq_false_iff, Bool.and_eq_false_iff, decide_eq_false_iff_not]
  omega

theorem word_of_matchesHeadTail {first rest : Char → Bool} {most : ℕ}
    (hfirst : ∀ c, first c = true → isLower c = true)
    (hrest : ∀ c, rest c = true → isWordChar c = true)
    (hmatch : matchesHeadTail first rest most word.toList = true) : Word word := by
  cases hchars : word.toList with
  | nil =>
      rw [hchars] at hmatch
      cases hmatch
  | cons c tail =>
      rw [hchars, matchesHeadTail, Bool.and_eq_true, Bool.and_eq_true, List.all_eq_true] at hmatch
      obtain ⟨⟨hc, htail⟩, -⟩ := hmatch
      refine ⟨⟨c, tail, hchars, hfirst c hc⟩, ?_⟩
      rw [hchars]
      intro d hd
      rcases List.mem_cons.mp hd with rfl | hd
      · exact isWordChar_of_isLower (hfirst d hc)
      · exact hrest d (htail d hd)

theorem word_of_toolNameRe (hname : toolNameRe word = true) : Word word := by
  refine word_of_matchesHeadTail (fun _ h => h) (fun c h => ?_) hname
  simpa [isWordChar] using h

theorem Word.stripped (hword : Word word) : pyStrip word = word :=
  pyStrip_eq_self fun c hc => not_isPySpace_of_isWordChar (hword.chars c hc)

theorem Word.no_colon (hword : Word word) : ':' ∉ word.toList := fun hcolon =>
  absurd (hword.chars _ hcolon) (by decide)

theorem Word.key (hword : Word word) : KeyText word := by
  obtain ⟨c, rest, hchars, hc⟩ := hword.head
  refine ⟨hword.stripped, hword.no_colon, c, rest, hchars, ?_, ?_⟩
  · rintro rfl
    exact absurd hc (by decide)
  · rintro rfl
    exact absurd hc (by decide)

theorem Word.value (hword : Word word) : ValueText word := by
  obtain ⟨c, rest, hchars, -⟩ := hword.head
  refine ⟨hword.stripped, ?_⟩
  rintro rfl
  cases hchars

theorem Word.no_break (hword : Word word) : ∀ c ∈ word.toList, isLineBreak c = false :=
  fun c hc => not_isLineBreak_of_isWordChar (hword.chars c hc)

/-- What a word is read as. -/
def wordValue (word : String) : PyValue :=
  if word = "true" then .bool true
  else if word = "false" then .bool false
  else .str word

theorem parseYamlScalar_word (hdigits : AsciiDigits platform) (hword : Word word) :
    parseYamlScalar platform word = .ok (wordValue word) := by
  obtain ⟨c, rest, hchars, hc⟩ := hword.head
  have hrange := toNat_of_isLower hc
  have hne : word ≠ "" := hword.value.nonempty
  have hdash : c ≠ '-' := by
    rintro rfl
    exact absurd hc (by decide)
  have hascii : c.isDigit = false := by
    rw [Char.isDigit, Bool.and_eq_false_iff, decide_eq_false_iff_not, decide_eq_false_iff_not]
    refine .inr fun h => ?_
    have hmost : c.toNat ≤ 57 := h
    omega
  have hdigit : platform.isDigit c = false := (hdigits.isDigit c (by omega)).trans hascii
  have hdecimal : platform.isDecimal c = false := (hdigits.isDecimal c (by omega)).trans hascii
  have hnumber : isDecimalFraction platform (c :: rest) = false := by
    have hspan : (c :: rest).span platform.isDecimal = ([], c :: rest) := by
      rw [List.span_eq_takeWhile_dropWhile, List.takeWhile_cons_of_neg (by simp [hdecimal]),
        List.dropWhile_cons_of_neg (by simp [hdecimal])]
    rw [isDecimalFraction]
    simp only [List.head?_cons, Option.some.injEq, hdash, if_false, hspan]
    split
    next hread =>
      obtain ⟨rfl, -⟩ := Prod.mk.inj hread
      rfl
    next => rfl
  have hquoted : ∀ quote, isLower quote = false → quotedBy quote (c :: rest) = false := by
    intro quote hquote
    have hother : c ≠ quote := by
      rintro rfl
      rw [hc] at hquote
      cases hquote
    simp [quotedBy, hother]
  unfold parseYamlScalar wordValue
  simp only [hchars, if_neg hne, List.dropWhile_cons, hdash, decide_false, Bool.false_eq_true,
    if_false, List.isEmpty_cons, List.all_cons, hdigit, Bool.false_and, Bool.and_false, hnumber,
    hquoted '"' (by decide), hquoted '\'' (by decide), Bool.or_self]
  split
  · rfl
  · split <;> rfl

/-- The characters that `str` prints for a number. -/
theorem toList_toString_int (number : Int) : ∃ sign digits,
    (toString number).toList = sign ++ digits ∧ (sign = [] ∨ sign = ['-']) ∧ digits ≠ [] ∧
      ∀ c ∈ digits, c.isDigit = true := by
  cases number with
  | ofNat n =>
      refine ⟨[], Nat.toDigits 10 n, Nat.toList_repr, .inl rfl, Nat.toDigits_ne_nil, ?_⟩
      exact fun c hc => Nat.isDigit_of_mem_toDigits (by decide) (by decide) hc
  | negSucc n =>
      refine ⟨['-'], Nat.toDigits 10 (n + 1), ?_, .inr rfl, Nat.toDigits_ne_nil, ?_⟩
      · have htext : toString (Int.negSucc n) = "-" ++ (n + 1).repr := rfl
        rw [htext, String.toList_append, Nat.toList_repr]
        rfl
      · exact fun c hc => Nat.isDigit_of_mem_toDigits (by decide) (by decide) hc

theorem parseYamlScalar_int (hdigits : AsciiDigits platform) (number : Int) :
    parseYamlScalar platform (toString number) = .ok (.int number) := by
  obtain ⟨sign, digits, hchars, hsign, hne, hall⟩ := toList_toString_int number
  obtain ⟨d, rest, rfl⟩ := List.exists_cons_of_ne_nil hne
  have hd := hall d List.mem_cons_self
  have hnot : d ≠ '-' := by
    rintro rfl
    exact absurd hd (by decide)
  have hunsigned : (toString number).toList.dropWhile (· = '-') = d :: rest := by
    rw [hchars]
    obtain rfl | rfl := hsign
    · exact List.dropWhile_cons_of_neg (by simp [hnot])
    · rw [List.singleton_append, List.dropWhile_cons_of_pos (by simp)]
      exact List.dropWhile_cons_of_neg (by simp [hnot])
  have hascii : (d :: rest).all platform.isDigit = true := by
    rw [List.all_eq_true]
    intro c hc
    have hdigit := hall c hc
    rw [hdigits.isDigit c ?_, hdigit]
    simp only [Char.isDigit, Bool.and_eq_true, decide_eq_true_eq] at hdigit
    have hmost : c.toNat ≤ 57 := hdigit.2
    omega
  have hword : ∀ text : String, (∃ c ∈ text.toList, c.isDigit = false ∧ c ≠ '-') →
      toString number ≠ text := by
    rintro text ⟨c, hc, hdigit, hdash⟩ rfl
    rw [hchars] at hc
    rcases List.mem_append.mp hc with hc | hc
    · obtain rfl | rfl := hsign
      · cases hc
      · exact hdash (List.mem_singleton.mp hc)
    · rw [hall c hc] at hdigit
      cases hdigit
  have hempty : toString number ≠ "" := by
    intro hempty
    rw [hempty] at hunsigned
    cases hunsigned
  rw [parseYamlScalar, if_neg hempty, if_neg (hword "true" ⟨'t', by decide, by decide⟩),
    if_neg (hword "false" ⟨'f', by decide, by decide⟩), hunsigned, hascii, hdigits.parseInt]
  rfl

theorem isWordChar_int (number : Int) :
    ∀ c ∈ (toString number).toList, isWordChar c = true := by
  obtain ⟨sign, digits, hchars, hsign, -, hall⟩ := toList_toString_int number
  intro c hc
  rw [hchars] at hc
  rcases List.mem_append.mp hc with hc | hc
  · obtain rfl | rfl := hsign
    · cases hc
    · obtain rfl := List.mem_singleton.mp hc
      decide
  · have hdigit := hall c hc
    simp only [Char.isDigit, Bool.and_eq_true, decide_eq_true_eq] at hdigit
    simp only [isWordChar, isDigit, Bool.or_eq_true, Bool.and_eq_true, decide_eq_true_eq]
    exact .inl (.inl (.inl (.inr hdigit)))

theorem valueText_int (number : Int) : ValueText (toString number) := by
  refine ⟨pyStrip_eq_self fun c hc => not_isPySpace_of_isWordChar (isWordChar_int number c hc), ?_⟩
  obtain ⟨sign, digits, hchars, -, hne, -⟩ := toList_toString_int number
  intro hempty
  rw [hempty] at hchars
  exact hne (List.append_eq_nil_iff.mp hchars.symm).2

end Words

/-! ## Printed texts -/

section Texts

/-- Lines that are each ended by a newline. -/
def unlines (lines : List String) : String := "\n".intercalate lines ++ "\n"

theorem splitlines_line {line rest : List Char} (hline : ∀ c ∈ line, isLineBreak c = false) :
    splitlines (line ++ '\n' :: rest) = line :: splitlines rest := by
  induction line with
  | nil => exact splitlines_break (by decide) fun h => absurd h (by decide)
  | cons c line ih =>
      rw [List.cons_append, splitlines_cons (hline c List.mem_cons_self),
        ih fun d hd => hline d (List.mem_cons_of_mem _ hd)]
      rfl

/-- Lines that are joined are told apart, if the last of them is not empty. -/
theorem splitlines_join {lines : List (List Char)}
    (hlines : ∀ line ∈ lines, ∀ c ∈ line, isLineBreak c = false)
    (hlast : ∀ line ∈ lines.getLast?, line ≠ []) :
    splitlines (['\n'].intercalate lines) = lines := by
  induction lines with
  | nil => rfl
  | cons line lines ih =>
      have hfirst := hlines line List.mem_cons_self
      cases lines with
      | nil =>
          have hjoin : ['\n'].intercalate [line] = line := by simp [List.intercalate]
          rw [hjoin, splitlines_of_not_isLineBreak (hlast line rfl) hfirst]
      | cons next lines =>
          have hjoin : ['\n'].intercalate (line :: next :: lines) =
              line ++ '\n' :: ['\n'].intercalate (next :: lines) := by
            simp [List.intercalate]
          rw [hjoin, splitlines_line hfirst, ih]
          · exact fun other hother => hlines other (List.mem_cons_of_mem _ hother)
          · rwa [List.getLast?_cons_cons] at hlast

/-- Lines of which the first starts and the last ends with a character that is no space. -/
structure Framed (lines : List (List Char)) : Prop where
  no_break : ∀ line ∈ lines, ∀ c ∈ line, isLineBreak c = false
  first : ∃ c line rest, lines = (c :: line) :: rest ∧ isPySpace c = false
  last : ∃ before line c, lines = before ++ [line ++ [c]] ∧ isPySpace c = false

theorem Framed.stripLine_join {lines : List (List Char)} (hframed : Framed lines) :
    stripLine (['\n'].intercalate lines) = ['\n'].intercalate lines := by
  obtain ⟨c, line, rest, rfl, hc⟩ := hframed.first
  obtain ⟨before, last, d, hlast, hd⟩ := hframed.last
  rw [stripLine_eq_self_iff]
  refine ⟨?_, ?_⟩
  · cases rest with
    | nil => simpa [List.intercalate] using hc
    | cons => simpa [List.intercalate] using hc
  · rw [hlast]
    have hjoin : ∃ chars, ['\n'].intercalate (before ++ [last ++ [d]]) = chars ++ [d] := by
      clear hlast
      induction before with
      | nil => exact ⟨last, by simp [List.intercalate]⟩
      | cons first before ih =>
          obtain ⟨chars, hchars⟩ := ih
          refine ⟨first ++ '\n' :: chars, ?_⟩
          rw [List.cons_append, List.append_assoc, List.cons_append, ← hchars]
          cases before <;> simp [List.intercalate]
    obtain ⟨chars, hchars⟩ := hjoin
    rw [hchars]
    simpa using hd

/-- What the parser sees of the lines. -/
def yamlTokens (lines : List String) : List YamlLine :=
  lines.filterMap fun line => yamlLine? line.toList

@[simp] theorem yamlTokens_nil : yamlTokens [] = [] := rfl

theorem yamlTokens_append (lines others : List String) :
    yamlTokens (lines ++ others) = yamlTokens lines ++ yamlTokens others :=
  List.filterMap_append

theorem yamlTokens_cons_some {line : String} {lines : List String} {token : YamlLine}
    (htoken : yamlLine? line.toList = some token) :
    yamlTokens (line :: lines) = token :: yamlTokens lines := by
  rw [yamlTokens, List.filterMap_cons, htoken]
  rfl

theorem yamlTokens_cons_none {line : String} {lines : List String}
    (hnone : yamlLine? line.toList = none) : yamlTokens (line :: lines) = yamlTokens lines := by
  rw [yamlTokens, List.filterMap_cons, hnone]
  rfl

/-- A printed text is told apart into its lines. -/
theorem tokenizeYamlLines_unlines {lines : List String} (hframed : Framed (lines.map String.toList))
    {trailing : String} (htrailing : ∀ c ∈ trailing.toList, isPySpace c = true) :
    tokenizeYamlLines (pyStrip (unlines lines ++ trailing)) = yamlTokens lines := by
  have hlast : ∀ line ∈ (lines.map String.toList).getLast?, line ≠ [] := by
    obtain ⟨before, line, c, hlines, -⟩ := hframed.last
    intro last hmem
    rw [hlines, List.getLast?_concat] at hmem
    obtain rfl := Option.some.inj hmem
    exact List.append_ne_nil_of_right_ne_nil _ (List.cons_ne_nil _ _)
  have hnewline : "\n".toList = ['\n'] := rfl
  have hspaces : ∀ c ∈ ['\n'] ++ trailing.toList, isPySpace c = true := by
    intro c hc
    rcases List.mem_append.mp hc with hc | hc
    · obtain rfl := List.mem_singleton.mp hc
      rfl
    · exact htrailing c hc
  have hchars : (pyStrip (unlines lines ++ trailing)).toList =
      ['\n'].intercalate (lines.map String.toList) := by
    rw [toList_pyStrip, unlines, String.toList_append, String.toList_append,
      String.toList_intercalate, List.append_assoc, hnewline]
    exact (stripLine_append_right hspaces).trans hframed.stripLine_join
  unfold tokenizeYamlLines yamlTokens
  rw [hchars, splitlines_join hframed.no_break hlast, List.filterMap_map, Function.comp_def]

end Texts

/-! ## Printed blocks -/

@[simp] theorem YamlLine.reading_false (line : YamlLine) :
    line.reading false = line.memberReading := by
  rw [YamlLine.reading, if_neg Bool.false_ne_true]

@[simp] theorem YamlLine.reading_true (line : YamlLine) : line.reading true = line.itemReading := by
  rw [YamlLine.reading, if_pos rfl]

section Blocks

variable {platform : TextPlatform} {indent : ℕ} {key text : String} {value : PyValue}
variable {first : YamlLine} {inner lines : List YamlLine}
variable {innerContents contents : List (Option String × PyValue)}

theorem prints_member (hkey : KeyText key) (htext : ValueText text)
    (hvalue : parseYamlScalar platform text = .ok value)
    (hlines : Prints platform false indent lines contents) :
    Prints platform false indent (printedLine indent (key ++ ": " ++ text) :: lines)
      ((some key, value) :: contents) := by
  have hread := @memberReading_member key text indent hkey htext
  rw [← YamlLine.reading_false] at hread
  exact .scalar hread hvalue hlines

theorem prints_item (htext : ValueText text) (hcolon : ':' ∉ text.toList)
    (hvalue : parseYamlScalar platform text = .ok value)
    (hlines : Prints platform true indent lines contents) :
    Prints platform true indent (printedLine indent ("- " ++ text) :: lines)
      ((none, value) :: contents) := by
  have hread := @itemReading_item text indent htext hcolon
  rw [← YamlLine.reading_true] at hread
  exact .scalar hread hvalue hlines

theorem prints_block (hkey : KeyText key)
    (hinner : Prints platform first.isItem (indent + 2) (first :: inner) innerContents)
    (hlines : Prints platform false indent lines contents) :
    Prints platform false indent (printedLine indent (key ++ ":") :: (first :: inner ++ lines))
      ((some key, blockValue first.isItem innerContents) :: contents) := by
  have hread := @memberReading_heading key indent hkey
  rw [← YamlLine.reading_false] at hread
  have hstarts : Starts first.isItem (first :: inner) := by
    rintro line ⟨⟩
    rfl
  exact .block hread hstarts (List.cons_ne_nil _ _) hinner hlines

end Blocks

end PaybondKit.Policy
