import FleetProfile.Proofs.Toml.Values

/-! Lines read back one after the other. No line that is written can be taken for a blank one or a
comment, and each ends where the next one begins. -/
namespace FleetProfile.Toml

variable {rest : List Char}

/-! ### Keys -/

/-- What a key begins with. -/
def IsKeyStart (c : Char) : Prop := isBare c = true ∨ c = '"' ∨ c = apostrophe

theorem IsKeyStart.ne {c d : Char} (h : IsKeyStart c)
    (hd : isBare d = false ∧ d ≠ '"' ∧ d ≠ apostrophe) : c ≠ d := by
  rintro rfl
  rcases h with h | h | h
  · exact absurd (h.symm.trans hd.1) (by decide)
  · exact hd.2.1 h
  · exact hd.2.2 h

theorem exists_keyText (key : String) : ∃ c t, keyText key = c :: t ∧ IsKeyStart c := by
  simp only [keyText]
  split_ifs with hbare
  · obtain ⟨c, t, ht⟩ := List.exists_cons_of_ne_nil hbare.1
    rw [ht] at hbare ⊢
    exact ⟨c, t, rfl, .inl (List.all_eq_true.1 hbare.2 c List.mem_cons_self)⟩
  · obtain ⟨c, t, ht, hc⟩ := (Form.ofKey key.toList).exists_write key.toList
    exact ⟨c, t, ht, .inr hc⟩

theorem skipBlanks_keyText (key : String) :
    skipBlanks (keyText key ++ rest) = keyText key ++ rest := by
  obtain ⟨c, t, ht, hc⟩ := exists_keyText key
  rw [ht, List.cons_append]
  exact skipBlanks_cons (hc.ne (by decide)) (hc.ne (by decide))

/-- A key is read back if no character of a bare key follows it. -/
theorem readPart_keyText (key : String) (hrest : ∀ c ∈ rest.head?, isBare c = false) :
    readPart (keyText key ++ rest) = some (key, rest) := by
  simp only [keyText]
  split_ifs with hbare
  · obtain ⟨hne, hall⟩ := hbare
    have hfirst : ∀ d, isBare d = false → ∀ r, key.toList ++ rest ≠ d :: r := by
      intro d hd r h
      obtain ⟨c, t, ht⟩ := List.exists_cons_of_ne_nil hne
      rw [ht, List.cons_append] at h
      have hc := List.all_eq_true.1 hall c (ht ▸ List.mem_cons_self)
      rw [(List.cons.inj h).1] at hc
      exact absurd (hc.symm.trans hd) (by decide)
    obtain ⟨htake, hdrop⟩ := takeWhile_dropWhile_append (List.all_eq_true.1 hall) hrest
    rw [readPart]
    · simp only [htake, hne, if_false, hdrop, String.ofList_toList]
    · exact hfirst '"' (by decide)
    · exact hfirst apostrophe (by decide)
  · rcases Form.holds_ofKey key.toList with hform | ⟨hform, holds⟩
    · simp only [hform, Form.write, List.cons_append, List.append_assoc, List.nil_append, readPart]
      rw [readBasic_basicText]
      · simp
      · rw [List.length_append]
        omega
    · simp only [hform, Form.write, List.cons_append, List.append_assoc, List.nil_append,
        apostrophe, readPart]
      exact (readLiteral_append holds).trans (by simp)

/-- A dotted key is read back with the blanks after it. -/
theorem readKey_pathText {path : List String} (hne : path ≠ []) {fuel : Nat}
    (hfuel : path.length ≤ fuel) (hrest : ∀ c ∈ rest.head?, isBare c = false)
    (hdot : ∀ c ∈ (skipBlanks rest).head?, c ≠ '.') :
    readKey fuel (pathText path ++ rest) = some (path, skipBlanks rest) := by
  induction path generalizing fuel with
  | nil => exact absurd rfl hne
  | cons key path ih =>
    obtain ⟨fuel, rfl⟩ : ∃ f, fuel = f + 1 := ⟨fuel - 1, by rw [List.length_cons] at hfuel; omega⟩
    cases path with
    | nil =>
      rw [pathText, readKey, skipBlanks_keyText, readPart_keyText key hrest]
      simp only
      split
      · rename_i r heq
        exact absurd rfl (hdot '.' (by rw [heq, List.head?_cons]; rfl))
      · rfl
    | cons next path =>
      have hpart : readPart (keyText key ++ '.' :: (pathText (next :: path) ++ rest)) =
          some (key, '.' :: (pathText (next :: path) ++ rest)) := by
        refine readPart_keyText key ?_
        rintro _ ⟨⟩
        decide
      have hpath : readKey fuel (pathText (next :: path) ++ rest) =
          some (next :: path, skipBlanks rest) :=
        ih (by simp) (by rw [List.length_cons] at hfuel; omega)
      rw [pathText, List.append_assoc, List.cons_append, readKey, skipBlanks_keyText, hpart]
      · simp only [skipBlanks_cons (c := '.') (by decide) (by decide), hpath, Option.map_some]
      · simp

/-! ### Lines -/

/-- A line that is read back: its value stands at its end, and its key is not too long. -/
inductive Written : Line → Prop
  | table {path : List String} (ne : path ≠ []) (short : path.length ≤ depthLimit) :
      Written (.table path)
  | element {path : List String} (ne : path ≠ []) (short : path.length ≤ depthLimit) :
      Written (.element path)
  | entry {key : List String} {v : Value} (ne : key ≠ []) (short : key.length ≤ depthLimit)
      (scalar : Scalar v) : Written (.entry key v)

/-- An entry for each value. -/
def entryLines (fields : List (String × Value)) : List Line :=
  fields.map fun e => .entry [e.1] e.2

theorem written_entryLines {fields : List (String × Value)} (h : ∀ e ∈ fields, Scalar e.2) :
    ∀ line ∈ entryLines fields, Written line :=
  List.forall_mem_map.2 fun e he => .entry (by simp) (by simp [depthLimit]) (h e he)

theorem afterLine?_lineBreak : afterLine? ('\n' :: rest) = some rest := rfl

/-- The line itself, without the blank line before a header. -/
def Line.ownText : Line → List Char
  | .table path => '[' :: (pathText path ++ [']'])
  | .element path => '[' :: '[' :: (pathText path ++ [']', ']'])
  | .entry key value => pathText key ++ ' ' :: '=' :: ' ' :: valueText value

theorem Line.text_eq (line : Line) :
    line.text = line.ownText ++ ['\n'] ∨ line.text = '\n' :: (line.ownText ++ ['\n']) := by
  cases line with
  | table path => exact .inr (by simp [text, ownText])
  | element path => exact .inr (by simp [text, ownText])
  | entry key value => exact .inl (by simp [text, ownText])

theorem exists_pathText {path : List String} (ne : path ≠ []) :
    ∃ c t, pathText path = c :: t ∧ IsKeyStart c := by
  obtain ⟨key, path, rfl⟩ := List.exists_cons_of_ne_nil ne
  obtain ⟨c, t, ht, hc⟩ := exists_keyText key
  cases path with
  | nil => exact ⟨c, t, ht, hc⟩
  | cons next path => exact ⟨c, t ++ '.' :: pathText (next :: path), by simp [pathText, ht], hc⟩

/-- A line begins with a bracket or a key, so not as a blank one or a comment does. -/
theorem Written.exists_ownText {line : Line} (h : Written line) :
    ∃ c t, line.ownText = c :: t ∧ (c = '[' ∨ IsKeyStart c) := by
  cases h with
  | table => exact ⟨_, _, rfl, .inl rfl⟩
  | element => exact ⟨_, _, rfl, .inl rfl⟩
  | entry ne =>
    obtain ⟨c, t, ht, hc⟩ := exists_pathText ne
    exact ⟨c, _, by rw [Line.ownText, ht, List.cons_append], .inr hc⟩

theorem skipBlanks_valueText {v : Value} (h : Scalar v) :
    skipBlanks (valueText v ++ rest) = valueText v ++ rest := by
  cases h with
  | string s =>
    obtain ⟨c, t, ht, hc⟩ := (Form.plainest s.toList).exists_write s.toList
    rw [valueText, stringText, ht]
    rcases hc with rfl | rfl
    · exact skipBlanks_cons (by decide) (by decide)
    · exact skipBlanks_cons (by decide) (by decide)
  | boolean b => cases b <;> rfl
  | @integer n fits =>
    obtain ⟨c, ds, hds, hc⟩ := exists_cons_toDigits n
    rw [valueText_integer, hds]
    exact skipBlanks_cons (ne_of_isDigit hc (by decide)) (ne_of_isDigit hc (by decide))

/-- A header is read up to its closing bracket. -/
theorem readKey_header {path : List String} (ne : path ≠ []) (short : path.length ≤ depthLimit) :
    readKey depthLimit (pathText path ++ ']' :: rest) = some (path, ']' :: rest) := by
  have hskip : skipBlanks (']' :: rest) = ']' :: rest := skipBlanks_cons (by decide) (by decide)
  rw [readKey_pathText ne short, hskip]
  · rintro _ ⟨⟩
    decide
  · rw [hskip]
    rintro _ ⟨⟩
    decide

theorem readKey_entry {key : List String} (ne : key ≠ []) (short : key.length ≤ depthLimit) :
    readKey depthLimit (pathText key ++ ' ' :: '=' :: rest) = some (key, '=' :: rest) := by
  have hskip : skipBlanks (' ' :: '=' :: rest) = '=' :: rest := rfl
  rw [readKey_pathText ne short, hskip]
  · rintro _ ⟨⟩
    decide
  · rw [hskip]
    rintro _ ⟨⟩
    decide

theorem readLine_ownText {line : Line} (h : Written line) :
    readLine (line.ownText ++ '\n' :: rest) = some (line, '\n' :: rest) := by
  cases h with
  | @table path ne short =>
    obtain ⟨c, t, ht, hc⟩ := exists_pathText ne
    have hkey : readKey depthLimit (pathText path ++ ']' :: '\n' :: rest) =
        some (path, ']' :: '\n' :: rest) := readKey_header ne short
    have hbracket : c ≠ '[' := hc.ne (by decide)
    simp only [Line.ownText, List.cons_append, List.append_assoc, List.nil_append]
    rw [readLine, hkey]
    · rfl
    · rw [ht]
      exact fun r h => hbracket (List.cons.inj h).1
  | @element path ne short =>
    have hkey : readKey depthLimit (pathText path ++ ']' :: ']' :: '\n' :: rest) =
        some (path, ']' :: ']' :: '\n' :: rest) := readKey_header ne short
    simp only [Line.ownText, List.cons_append, List.append_assoc, List.nil_append, readLine, hkey]
  | @entry key v ne short scalar =>
    obtain ⟨c, t, ht, hc⟩ := exists_pathText ne
    have hkey : readKey depthLimit (pathText key ++ ' ' :: '=' :: ' ' :: (valueText v ++
        '\n' :: rest)) = some (key, '=' :: ' ' :: (valueText v ++ '\n' :: rest)) :=
      readKey_entry ne short
    have hskip : skipBlanks (' ' :: (valueText v ++ '\n' :: rest)) = valueText v ++ '\n' :: rest :=
      skipBlanks_valueText scalar
    have hbracket : c ≠ '[' := hc.ne (by decide)
    simp only [Line.ownText, List.cons_append, List.append_assoc]
    rw [readLine, hkey]
    · simp only [hskip, readAnyValue_valueText scalar, Option.map_some]
    · rw [ht]
      exact fun r h => hbracket (List.cons.inj h).1
    · rw [ht]
      exact fun r h => hbracket (List.cons.inj h).1

theorem readLines_lineBreak (fuel : Nat) :
    readLines (fuel + 1) ('\n' :: rest) = readLines fuel rest := rfl

theorem afterLine?_eq_none {c : Char} (hskip : skipBlanks (c :: rest) = c :: rest)
    (hcomment : c ≠ '#') (hbreak : c ≠ '\n') (hreturn : c ≠ '\r') :
    afterLine? (c :: rest) = none := by
  have hkeep : skipComment (c :: rest) = c :: rest := by
    rw [skipComment]
    exact fun _ h => hcomment (List.cons.inj h).1
  have hafter : afterBreak? (c :: rest) = none := by
    rw [afterBreak?]
    · exact fun _ h => hbreak (List.cons.inj h).1
    · exact fun _ h => hreturn (List.cons.inj h).1
  rw [afterLine?, hskip, hkeep]
  exact hafter

theorem readLines_ownText {line : Line} (h : Written line) (fuel : Nat) :
    readLines (fuel + 1) (line.ownText ++ '\n' :: rest) =
      (readLines fuel rest).map (line :: ·) := by
  have hread : readLine (line.ownText ++ '\n' :: rest) = some (line, '\n' :: rest) :=
    readLine_ownText h
  obtain ⟨c, t, ht, hc⟩ := h.exists_ownText
  have hne : ∀ d, d ≠ '[' ∧ isBare d = false ∧ d ≠ '"' ∧ d ≠ apostrophe → c ≠ d := by
    rintro d ⟨hbracket, hd⟩
    rcases hc with rfl | hc
    · exact hbracket.symm
    · exact hc.ne hd
  have hskip : skipBlanks (c :: (t ++ '\n' :: rest)) = c :: (t ++ '\n' :: rest) :=
    skipBlanks_cons (hne ' ' (by decide)) (hne '\t' (by decide))
  have hnone : afterLine? (c :: (t ++ '\n' :: rest)) = none :=
    afterLine?_eq_none hskip (hne '#' (by decide)) (hne '\n' (by decide)) (hne '\r' (by decide))
  rw [ht, List.cons_append] at hread ⊢
  simp only [readLines, hskip, hnone, hread, afterLine?_lineBreak]

/-- The lines of a document are read back. -/
theorem readLines_documentText {lines : List Line} (h : ∀ line ∈ lines, Written line) {fuel : Nat}
    (hfuel : (documentText lines).length < fuel) :
    readLines fuel (documentText lines) = some lines := by
  induction lines generalizing fuel with
  | nil =>
    obtain ⟨fuel, rfl⟩ : ∃ f, fuel = f + 1 := ⟨fuel - 1, by omega⟩
    rfl
  | cons line lines ih =>
    obtain ⟨hline, hlines⟩ := List.forall_mem_cons.1 h
    have htext : documentText (line :: lines) = line.text ++ documentText lines := rfl
    rcases line.text_eq with hown | hheader
    · rw [htext, hown, List.append_assoc, List.singleton_append] at hfuel ⊢
      rw [List.length_append, List.length_cons] at hfuel
      obtain ⟨fuel, rfl⟩ : ∃ f, fuel = f + 1 := ⟨fuel - 1, by omega⟩
      rw [readLines_ownText hline, ih hlines (by omega), Option.map_some]
    · -- The blank line before a header is read first.
      rw [htext, hheader, List.cons_append, List.append_assoc, List.singleton_append] at hfuel ⊢
      rw [List.length_cons, List.length_append, List.length_cons] at hfuel
      obtain ⟨fuel, rfl⟩ : ∃ f, fuel = f + 2 := ⟨fuel - 2, by omega⟩
      rw [readLines_lineBreak, readLines_ownText hline, ih hlines (by omega), Option.map_some]

/-- A document is read back as its lines; it does not begin with a byte order mark. -/
theorem parseLines?_documentText {lines : List Line} (h : ∀ line ∈ lines, Written line) :
    parseLines? (documentText lines) = some lines := by
  have hmark : ∀ r, documentText lines ≠ '\ufeff' :: r := by
    intro r hr
    cases lines with
    | nil => exact absurd hr (by simp [documentText])
    | cons line lines =>
      obtain ⟨c, t, ht, hc⟩ := (h line List.mem_cons_self).exists_ownText
      have htext : documentText (line :: lines) = line.text ++ documentText lines := rfl
      rw [htext] at hr
      rcases line.text_eq with hown | hheader
      · rw [hown, ht] at hr
        obtain rfl := (List.cons.inj hr).1
        exact hc.elim (by decide) fun hc => hc.ne (by decide) rfl
      · rw [hheader] at hr
        exact absurd (List.cons.inj hr).1 (by decide)
  simp only [parseLines?]
  exact readLines_documentText h (Nat.lt_succ_self _)

end FleetProfile.Toml
