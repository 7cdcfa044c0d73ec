import FleetProfile.Proofs.Lists
import FleetProfile.Toml.Parser
import Mathlib.Tactic.SplitIfs

/-! Strings read back as they were written, whichever of the four forms holds them. A block is the
one that takes care: its reader takes quotes a row at a time, and three of them end it. -/
namespace FleetProfile.Toml

/-! ### Characters -/

theorem isPlain_of_not_isCode {c : Char} (code : isCode c = false) (hbreak : c ≠ '\n') :
    isPlain c = true := by
  have hten : c.toNat ≠ 10 := fun h => hbreak (by rw [← Char.ofNat_toNat c, h])
  have htab : c.toNat = 9 → c = '\t' := fun h => by rw [← Char.ofNat_toNat c, h]
  simp only [isCode, Bool.or_eq_false_iff, decide_eq_false_iff_not, Bool.and_eq_false_iff,
    beq_eq_false_iff_ne] at code
  simp only [isPlain, Bool.or_eq_true, beq_iff_eq, Bool.and_eq_true, decide_eq_true_eq, bne_iff_ne]
  by_cases h : c.toNat = 9
  · exact .inl (htab h)
  · right
    omega

theorem mapM_hexValue_code : ∀ n < 128,
    ['0', '0', Bytes.hexDigit (n / 16), Bytes.hexDigit (n % 16)].mapM Json.hexValue? =
      some [0, 0, n / 16, n % 16] := by decide

theorem readEscape_code {c : Char} (h : c.toNat < 128) (r : List Char) :
    readEscape ('u' :: '0' :: '0' :: Bytes.hexDigit (c.toNat / 16) ::
      Bytes.hexDigit (c.toNat % 16) :: r) = some (c, r) := by
  have hvalue : 16 * (c.toNat / 16) + c.toNat % 16 = c.toNat := Nat.div_add_mod _ _
  have hvalid : c.toNat.isValidChar := c.valid
  simp only [readEscape, readCode, List.take_succ_cons, List.take_zero, mapM_hexValue_code _ h,
    List.foldl_cons, List.foldl_nil, Nat.mul_zero, Nat.zero_add, hvalue, List.length_cons,
    List.length_nil, hvalid, and_self, if_true, Char.ofNat_toNat, List.drop_succ_cons,
    List.drop_zero]

/-- How a character other than the quote stands in a basic string or block. -/
inductive Escaped (block : Bool) (c : Char) : List Char → Prop
  | plain (plain : isPlain c = true) (slash : c ≠ '\\') : Escaped block c [c]
  | lineBreak (block_eq : block = true) (char_eq : c = '\n') : Escaped block c [c]
  | code {d : Char} {e : List Char} (letter : d ≠ ' ' ∧ d ≠ '\t' ∧ d ≠ '\n' ∧ d ≠ '\r')
      (reads : ∀ r, readEscape (d :: e ++ r) = some (c, r)) : Escaped block c ('\\' :: d :: e)

theorem escaped_escapedChar (block : Bool) (c : Char) : Escaped block c (escapedChar block c) := by
  have hchar : ∀ n, (c.toNat == n) = true → c = Char.ofNat n := fun n h => by
    rw [← Char.ofNat_toNat c, beq_iff_eq.1 h]
  unfold escapedChar
  split_ifs with hback htab hbreak hblock hfeed hreturn hslash hcode
  · obtain rfl := hchar 8 hback
    exact .code (by decide) fun r => rfl
  · obtain rfl := beq_iff_eq.1 htab
    exact .code (by decide) fun r => rfl
  · obtain rfl := beq_iff_eq.1 hbreak
    exact .lineBreak hblock rfl
  · obtain rfl := beq_iff_eq.1 hbreak
    exact .code (by decide) fun r => rfl
  · obtain rfl := hchar 12 hfeed
    exact .code (by decide) fun r => rfl
  · obtain rfl := beq_iff_eq.1 hreturn
    exact .code (by decide) fun r => rfl
  · obtain rfl := beq_iff_eq.1 hslash
    exact .code (by decide) fun r => rfl
  · have hlt : c.toNat < 128 := by
      simp only [isCode, Bool.or_eq_true, decide_eq_true_eq, Bool.and_eq_true, beq_iff_eq] at hcode
      omega
    exact .code (by decide) fun r => readEscape_code hlt r
  · refine .plain (isPlain_of_not_isCode (by simpa using hcode) ?_) ?_
    · exact fun h => hbreak (beq_iff_eq.2 h)
    · exact fun h => hslash (beq_iff_eq.2 h)

/-- What stands for a character begins with a quote or a line break only if that is the one. -/
theorem Escaped.exists_cons {block : Bool} {c : Char} {t : List Char} (h : Escaped block c t) :
    ∃ d part, t = d :: part ∧ (c ≠ '"' → d ≠ '"') ∧ (c ≠ '\n' → isPlain d = true) := by
  cases h with
  | plain plain => exact ⟨c, [], rfl, id, fun _ => plain⟩
  | lineBreak _ char_eq => exact ⟨c, [], rfl, id, fun h => absurd char_eq h⟩
  | code => exact ⟨_, _, rfl, fun _ => by decide, fun _ => by decide⟩

variable {acc : List Char} {fuel : Nat} {rest s : List Char}

theorem skipBlanks_cons {c : Char} (hblank : c ≠ ' ') (htab : c ≠ '\t') :
    skipBlanks (c :: rest) = c :: rest := by
  simp [skipBlanks, hblank, htab]

/-! ### Strings on a line -/

theorem readBasic_escaped {c : Char} {t : List Char} (h : Escaped false c t) (hc : c ≠ '"') :
    readBasic (fuel + 1) acc (t ++ rest) = readBasic fuel (c :: acc) rest := by
  cases h with
  | plain plain slash =>
    simp only [List.singleton_append, readBasic, beq_eq_false_iff_ne.2 hc,
      beq_eq_false_iff_ne.2 slash, plain, Bool.false_eq_true, if_false, if_true]
  | lineBreak block_eq => exact absurd block_eq (by decide)
  | code letter reads =>
    have hread := reads rest
    simp only [List.cons_append] at hread ⊢
    simp only [readBasic, hread]
    rfl

theorem readBasic_basicText (run : Nat) (h : (basicText false run s).length < fuel) :
    readBasic fuel acc (basicText false run s ++ '"' :: rest) =
      some (String.ofList (acc.reverse ++ s), rest) := by
  induction s generalizing acc fuel run with
  | nil =>
    obtain ⟨fuel, rfl⟩ : ∃ f, fuel = f + 1 := ⟨fuel - 1, by omega⟩
    simp [basicText, readBasic]
  | cons c s ih =>
    obtain ⟨fuel, rfl⟩ : ∃ f, fuel = f + 1 := ⟨fuel - 1, by omega⟩
    have hacc : acc.reverse ++ c :: s = (c :: acc).reverse ++ s := by simp
    rw [hacc]
    unfold basicText at h ⊢
    by_cases hc : c = '"'
    · subst hc
      simp only [beq_self_eq_true, Bool.false_and, if_true, Bool.false_eq_true, if_false,
        List.length_cons, List.cons_append] at h ⊢
      have hs : readBasic fuel ('"' :: acc) (basicText false 0 s ++ '"' :: rest) =
          some (String.ofList (('"' :: acc).reverse ++ s), rest) := ih 0 (by omega)
      rw [← hs]
      rfl
    · have hescaped := escaped_escapedChar false c
      obtain ⟨d, part, hpart, -⟩ := hescaped.exists_cons
      have hlength := congrArg List.length hpart
      simp only [beq_eq_false_iff_ne.2 hc, Bool.false_eq_true, if_false, List.length_append,
        List.append_assoc, List.length_cons] at h hlength ⊢
      rw [readBasic_escaped hescaped hc]
      exact ih 0 (by omega)

theorem readLiteral_append (plain : ∀ c ∈ s, isPlain c = true ∧ c ≠ apostrophe) :
    readLiteral acc (s ++ apostrophe :: rest) = some (String.ofList (acc.reverse ++ s), rest) := by
  induction s generalizing acc with
  | nil => simp [readLiteral]
  | cons c s ih =>
    obtain ⟨⟨hc, hne⟩, hs⟩ := List.forall_mem_cons.1 plain
    simp only [List.cons_append, readLiteral, beq_eq_false_iff_ne.2 hne, hc, Bool.false_eq_true,
      if_false, if_true]
    rw [ih hs, List.reverse_cons, List.append_assoc, List.singleton_append]

/-! ### Blocks -/

/-- The text between the quotes of a block after a row of quotes, and what it holds. A row within
the text is of at most two quotes. -/
inductive Block (quote : Char) : Nat → List Char → List Char → Prop
  | done {run : Nat} : Block quote run [] []
  | quote {run : Nat} {t v : List Char} (short : run < 2) (tail : Block quote (run + 1) t v) :
      Block quote run (quote :: t) (quote :: v)
  | other {run : Nat} {c d : Char} {part t v : List Char} (head : d ≠ quote)
      (step : ∀ fuel acc rest, readBlock quote (fuel + 1) acc (d :: part ++ rest) =
        readBlock quote fuel (c :: acc) rest)
      (tail : Block quote 0 t v) : Block quote run (d :: part ++ t) (c :: v)

variable {quote : Char}

theorem takeWhile_quotes (run : Nat) (hrest : ∀ d ∈ rest.head?, d ≠ quote) :
    (List.replicate run quote ++ rest).takeWhile (· == quote) = List.replicate run quote := by
  refine (takeWhile_dropWhile_append (fun d hd => ?_) fun d hd => ?_).1
  · exact beq_iff_eq.2 (List.eq_of_mem_replicate hd)
  · exact beq_eq_false_iff_ne.2 (hrest d hd)

/-- A row of fewer than three quotes belongs to the text. -/
theorem readBlock_quotes {run : Nat} (pos : 0 < run) (short : run ≤ 2)
    (hrest : ∀ d ∈ rest.head?, d ≠ quote) :
    readBlock quote (fuel + 1) acc (List.replicate run quote ++ rest) =
      readBlock quote fuel (List.replicate run quote ++ acc) rest := by
  have hnot : ¬ 3 ≤ run := by omega
  have hdrop : (List.replicate run quote ++ rest).drop run = rest := by
    rw [List.drop_append_of_le_length (by simp), List.drop_replicate, Nat.sub_self]
    rfl
  simp only [readBlock, takeWhile_quotes run hrest, List.length_replicate, hnot, pos, if_false,
    if_true, hdrop]

/-- Of the last quotes three end the text. -/
theorem readBlock_end {run : Nat} (short : run ≤ 2) (hrest : ∀ d ∈ rest.head?, d ≠ quote) :
    readBlock quote (fuel + 1) acc (List.replicate run quote ++ (List.replicate 3 quote ++ rest)) =
      some (String.ofList (acc.reverse ++ List.replicate run quote), rest) := by
  have hown : min (run + 3 - 3) 2 = run := by omega
  have hdrop : (List.replicate (run + 3) quote ++ rest).drop (run + 3) = rest := by
    rw [List.drop_append_of_le_length (by simp), List.drop_replicate, Nat.sub_self]
    rfl
  rw [← List.append_assoc, List.replicate_append_replicate]
  simp only [readBlock, takeWhile_quotes _ hrest, List.length_replicate, Nat.le_add_left, if_true,
    hown, hdrop]

theorem Block.readBlock_eq {run : Nat} {t v : List Char} (h : Block quote run t v)
    (short : run ≤ 2) (hrest : ∀ d ∈ rest.head?, d ≠ quote) (hfuel : run + t.length < fuel) :
    readBlock quote fuel acc (List.replicate run quote ++ (t ++ (List.replicate 3 quote ++ rest))) =
      some (String.ofList (acc.reverse ++ (List.replicate run quote ++ v)), rest) := by
  induction h generalizing acc fuel with
  | done =>
    obtain ⟨fuel, rfl⟩ : ∃ f, fuel = f + 1 := ⟨fuel - 1, by omega⟩
    rw [List.nil_append, List.append_nil]
    exact readBlock_end short hrest
  | @quote run t v hlt tail ih =>
    have hrow : ∀ l : List Char, List.replicate run quote ++ quote :: l =
        List.replicate (run + 1) quote ++ l := fun l => by
      rw [List.replicate_succ', List.append_assoc, List.singleton_append]
    rw [List.cons_append, hrow, hrow]
    rw [List.length_cons] at hfuel
    exact ih (by omega) (by omega)
  | @other run c d part t v head step tail ih =>
    rw [List.length_append, List.length_cons] at hfuel
    -- The row before the text goes first, if there is one.
    rcases Nat.eq_zero_or_pos run with rfl | hpos
    · obtain ⟨fuel, rfl⟩ : ∃ f, fuel = f + 1 := ⟨fuel - 1, by omega⟩
      rw [List.replicate_zero, List.nil_append, List.append_assoc, step]
      refine (ih (by omega) (by omega)).trans ?_
      simp
    · obtain ⟨fuel, rfl⟩ : ∃ f, fuel = f + 2 := ⟨fuel - 2, by omega⟩
      have hhead : ∀ q ∈ (d :: part ++ (t ++ (List.replicate 3 quote ++ rest))).head?,
          q ≠ quote := by
        rintro _ ⟨⟩
        exact head
      rw [List.append_assoc (d :: part), readBlock_quotes hpos short hhead, step]
      refine (ih (by omega) (by omega)).trans ?_
      simp

theorem afterBreak?_of_isPlain {c : Char} (plain : isPlain c = true) (rest : List Char) :
    afterBreak? (c :: rest) = none := by
  unfold afterBreak?
  split
  · rename_i heq
    rw [(List.cons.inj heq).1] at plain
    exact absurd plain (by decide)
  · rename_i heq
    rw [(List.cons.inj heq).1] at plain
    exact absurd plain (by decide)
  · rfl

/-- No row of quotes stands before another character. -/
theorem takeWhile_cons_of_ne {c : Char} (hc : c ≠ quote) :
    (c :: rest).takeWhile (· == quote) = [] := by
  rw [List.takeWhile_cons, beq_eq_false_iff_ne.2 hc]
  rfl

theorem readBlock_plain {c : Char} (plain : isPlain c = true) (hc : c ≠ quote)
    (slash : quote = '"' → c ≠ '\\') :
    readBlock quote (fuel + 1) acc (c :: rest) = readBlock quote fuel (c :: acc) rest := by
  have hslash : (c == '\\' && quote == '"') = false := by
    rw [Bool.and_eq_false_iff, beq_eq_false_iff_ne, beq_eq_false_iff_ne]
    by_cases hquote : quote = '"'
    · exact .inl (slash hquote)
    · exact .inr hquote
  have hrow : (c :: rest).takeWhile (· == quote) = [] := takeWhile_cons_of_ne hc
  simp only [readBlock, hrow, List.length_nil, Nat.reduceLeDiff, Nat.lt_irrefl,
    afterBreak?_of_isPlain plain, hslash, Bool.false_eq_true, plain, if_false, if_true]

theorem readBlock_lineBreak (hquote : quote ≠ '\n') :
    readBlock quote (fuel + 1) acc ('\n' :: rest) = readBlock quote fuel ('\n' :: acc) rest := by
  have hrow : ('\n' :: rest).takeWhile (· == quote) = [] := takeWhile_cons_of_ne hquote.symm
  simp only [readBlock, hrow, List.length_nil, Nat.reduceLeDiff, Nat.lt_irrefl, afterBreak?,
    if_false]

theorem readBlock_code {c d : Char} {e : List Char}
    (letter : d ≠ ' ' ∧ d ≠ '\t' ∧ d ≠ '\n' ∧ d ≠ '\r')
    (reads : ∀ r, readEscape (d :: e ++ r) = some (c, r)) :
    readBlock '"' (fuel + 1) acc ('\\' :: d :: e ++ rest) = readBlock '"' fuel (c :: acc) rest := by
  obtain ⟨hblank, htab, hbreak, hreturn⟩ := letter
  -- A backslash takes a line break away only if nothing but blanks comes between.
  have hcontinuation : continuation? (d :: e ++ rest) = none := by
    have hskip : skipBlanks (d :: e ++ rest) = d :: e ++ rest := skipBlanks_cons hblank htab
    rw [continuation?, hskip, List.cons_append, afterBreak?]
    · rfl
    · exact fun _ heq => hbreak (List.cons.inj heq).1
    · exact fun _ heq => hreturn (List.cons.inj heq).1
  have hslash : ('\\' == '\\' && '"' == '"') = true := rfl
  have hrow : ('\\' :: (d :: e ++ rest)).takeWhile (· == '"') = [] :=
    takeWhile_cons_of_ne (by decide)
  have hplain : isPlain '\\' = true := by decide
  rw [List.cons_append]
  simp only [readBlock, hrow, List.length_nil, Nat.reduceLeDiff, Nat.lt_irrefl,
    afterBreak?_of_isPlain hplain, hslash, hcontinuation, reads, if_false, if_true]

theorem readBlock_escaped {c : Char} {t : List Char} (h : Escaped true c t) (hc : c ≠ '"') :
    readBlock '"' (fuel + 1) acc (t ++ rest) = readBlock '"' fuel (c :: acc) rest := by
  cases h with
  | plain plain slash => exact readBlock_plain plain hc fun _ => slash
  | lineBreak _ char_eq =>
    subst char_eq
    exact readBlock_lineBreak (by decide)
  | code letter reads => exact readBlock_code letter reads

theorem block_basicText (run : Nat) (s : List Char) : Block '"' run (basicText true run s) s := by
  induction s generalizing run with
  | nil => exact .done
  | cons c s ih =>
    unfold basicText
    by_cases hc : c = '"'
    · subst hc
      simp only [beq_self_eq_true, if_true, Bool.true_and, decide_eq_true_eq]
      split_ifs with hrun
      · exact .quote hrun (ih (run + 1))
      · have hstep : ∀ fuel acc rest, readBlock '"' (fuel + 1) acc (['\\', '"'] ++ rest) =
            readBlock '"' fuel ('"' :: acc) rest :=
          fun _ _ _ => readBlock_code (by decide) fun r => rfl
        exact .other (by decide) hstep (ih 0)
    · have hescaped := escaped_escapedChar true c
      obtain ⟨d, part, hpart, hd, -⟩ := hescaped.exists_cons
      rw [if_neg fun h => hc (beq_iff_eq.1 h), hpart]
      rw [hpart] at hescaped
      exact .other (hd hc) (fun _ _ _ => readBlock_escaped hescaped hc) (ih 0)

theorem le_longestRun (c : Char) (run : Nat) (s : List Char) : run ≤ longestRun c run s := by
  induction s generalizing run with
  | nil => exact Nat.le_refl _
  | cons d s ih =>
    unfold longestRun
    split_ifs
    · exact Nat.le_of_succ_le (ih (run + 1))
    · exact Nat.le_max_left _ _

/-- A text without escapes that has only short rows of the quote stands for itself. -/
theorem block_of_longestRun {run : Nat} (plain : ∀ c ∈ s, isPlain c = true ∨ c = '\n')
    (short : longestRun quote run s ≤ 2) (hbreak : quote ≠ '\n')
    (slash : quote = '"' → '\\' ∉ s) : Block quote run s s := by
  induction s generalizing run with
  | nil => exact .done
  | cons c s ih =>
    obtain ⟨hc, hs⟩ := List.forall_mem_cons.1 plain
    have hslash : quote = '"' → '\\' ∉ s := fun h hmem => slash h (List.mem_cons_of_mem _ hmem)
    unfold longestRun at short
    by_cases hquote : c = quote
    · subst hquote
      rw [if_pos (beq_self_eq_true c)] at short
      exact .quote (Nat.lt_of_lt_of_le (Nat.lt_of_lt_of_le (Nat.lt_succ_self _)
        (le_longestRun c _ s)) short) (ih hs short hslash)
    · rw [if_neg fun h => hquote (beq_iff_eq.1 h)] at short
      have hstep : ∀ fuel acc rest, readBlock quote (fuel + 1) acc ([c] ++ rest) =
          readBlock quote fuel (c :: acc) rest := by
        intro fuel acc rest
        rcases hc with hc | rfl
        · refine readBlock_plain hc hquote fun h => ?_
          rintro rfl
          exact slash h List.mem_cons_self
        · exact readBlock_lineBreak hbreak
      exact .other hquote hstep (ih hs (Nat.le_trans (Nat.le_max_right _ _) short) hslash)

/-- The line break that a block may begin with is added where the text has one. -/
theorem readBlockText_blockStart {t : List Char}
    (head : '\n' ∉ s → ∀ c ∈ t.head?, isPlain c = true) :
    readBlockText quote (blockStart s ++ t) = readBlock quote (t.length + 1) [] t := by
  unfold readBlockText blockStart
  by_cases hs : '\n' ∈ s
  · rw [if_pos (List.contains_iff_mem.2 hs)]
    rfl
  · have hnone : afterBreak? t = none := by
      cases t with
      | nil => rfl
      | cons c t => exact afterBreak?_of_isPlain (head hs c rfl) t
    rw [if_neg fun h => hs (List.contains_iff_mem.1 h), List.nil_append, hnone]
    rfl

/-- The text of a block is read back after its first quotes. -/
theorem Block.readBlockText_eq {t v : List Char} (h : Block quote 0 t v)
    (hrest : ∀ d ∈ rest.head?, d ≠ quote)
    (head : '\n' ∉ s → ∀ c ∈ (t ++ quote :: quote :: quote :: rest).head?, isPlain c = true) :
    readBlockText quote (blockStart s ++ (t ++ quote :: quote :: quote :: rest)) =
      some (String.ofList v, rest) := by
  have hfuel : 0 + t.length < (t ++ quote :: quote :: quote :: rest).length + 1 := by
    rw [List.length_append]
    omega
  rw [readBlockText_blockStart head]
  exact h.readBlock_eq (Nat.zero_le 2) hrest hfuel

theorem isPlain_head_basicText (hs : '\n' ∉ s) :
    ∀ c ∈ (basicText true 0 s ++ '"' :: rest).head?, isPlain c = true := by
  cases s with
  | nil =>
    rintro _ ⟨⟩
    decide
  | cons c s =>
    have hc : c ≠ '\n' := fun h => hs (h ▸ List.mem_cons_self)
    unfold basicText
    split_ifs with hquote hrun
    · rintro _ ⟨⟩
      decide
    · rintro _ ⟨⟩
      decide
    · obtain ⟨d, part, hpart, -, hd⟩ := (escaped_escapedChar true c).exists_cons
      rw [hpart]
      rintro _ ⟨⟩
      exact hd hc

/-! ### All forms -/

namespace Form

/-- A form can hold a text. -/
def Holds : Form → List Char → Prop
  | basic, _ => True
  | literal, s => ∀ c ∈ s, isPlain c = true ∧ c ≠ apostrophe
  | basicBlock, _ => True
  | literalBlock, s =>
    (∀ c ∈ s, isPlain c = true ∨ c = '\n') ∧ longestRun apostrophe 0 s ≤ 2

theorem isPlain_or_lineBreak (codes : s.any isCode = false) :
    ∀ c ∈ s, isPlain c = true ∨ c = '\n' := by
  intro c hc
  have hcode : isCode c = false := by
    simpa using List.any_eq_false.1 codes c hc
  by_cases hbreak : c = '\n'
  · exact .inr hbreak
  · exact .inl (isPlain_of_not_isCode hcode hbreak)

theorem holds_literal (codes : s.any isCode = false) (breaks : s.contains '\n' = false)
    (quotes : s.contains apostrophe = false) : literal.Holds s := by
  intro c hc
  refine ⟨(isPlain_or_lineBreak codes c hc).resolve_right ?_, ?_⟩
  · rintro rfl
    simp [hc] at breaks
  · rintro rfl
    simp [hc] at quotes

theorem holds_plainest (s : List Char) : (plainest s).Holds s := by
  simp only [plainest]
  split_ifs with hbasic hliteral hblock hlong
  · trivial
  · simp only [Bool.and_eq_true, Bool.not_eq_true'] at hliteral
    exact holds_literal hliteral.1.1 hliteral.1.2 hliteral.2
  · trivial
  · simp only [Bool.and_eq_true, Bool.not_eq_true', decide_eq_true_eq] at hlong
    exact ⟨isPlain_or_lineBreak hlong.1, hlong.2⟩
  · trivial
  · trivial

theorem holds_ofKey (s : List Char) :
    ofKey s = basic ∨ ofKey s = literal ∧ literal.Holds s := by
  simp only [ofKey]
  split_ifs with hbasic hliteral
  · exact .inl rfl
  · simp only [Bool.and_eq_true, Bool.not_eq_true', Bool.or_eq_false_iff] at hliteral
    exact .inr ⟨rfl, holds_literal hliteral.1.1 hliteral.1.2 hliteral.2⟩
  · exact .inl rfl

end Form

/-- A quoted string is no block unless two more quotes follow the first. -/
theorem readString_quote {t : List Char} (h : ∀ r, t ≠ '"' :: '"' :: r) :
    readString ('"' :: t) = readBasic (t.length + 1) [] t := by
  rw [readString]
  exact h

theorem readString_apostrophe {t : List Char} (h : ∀ r, t ≠ apostrophe :: apostrophe :: r) :
    readString (apostrophe :: t) = readLiteral [] t := by
  rw [apostrophe, readString]
  exact h

theorem basicText_ne_quotes (hrest : ∀ d ∈ rest.head?, d ≠ '"') (r : List Char) :
    basicText false 0 s ++ '"' :: rest ≠ '"' :: '"' :: r := by
  intro h
  cases s with
  | nil => exact hrest '"' (by rw [(List.cons.inj h).2, List.head?_cons]; rfl) rfl
  | cons c s =>
    unfold basicText at h
    by_cases hc : c = '"'
    · subst hc
      exact absurd (List.cons.inj h).1 (by decide)
    · obtain ⟨d, part, hpart, hd, -⟩ := (escaped_escapedChar false c).exists_cons
      rw [if_neg fun h => hc (beq_iff_eq.1 h), hpart] at h
      exact hd hc (List.cons.inj h).1

theorem literal_ne_quotes (holds : Form.literal.Holds s) (hrest : ∀ d ∈ rest.head?, d ≠ apostrophe)
    (r : List Char) : s ++ apostrophe :: rest ≠ apostrophe :: apostrophe :: r := by
  intro h
  cases s with
  | nil => exact hrest apostrophe (by rw [(List.cons.inj h).2, List.head?_cons]; rfl) rfl
  | cons c s => exact (holds c List.mem_cons_self).2 (List.cons.inj h).1

/-- A string is read back from each form that can hold it. -/
theorem readString_write {form : Form} (holds : form.Holds s)
    (hrest : ∀ d ∈ rest.head?, d ≠ '"' ∧ d ≠ apostrophe) :
    readString (form.write s ++ rest) = some (String.ofList s, rest) := by
  have hquote : ∀ d ∈ rest.head?, d ≠ '"' := fun d hd => (hrest d hd).1
  have hapostrophe : ∀ d ∈ rest.head?, d ≠ apostrophe := fun d hd => (hrest d hd).2
  cases form with
  | basic =>
    simp only [Form.write, List.cons_append, List.append_assoc, List.nil_append]
    rw [readString_quote (basicText_ne_quotes hquote), readBasic_basicText]
    · rfl
    · rw [List.length_append]
      omega
  | literal =>
    simp only [Form.write, List.cons_append, List.append_assoc, List.nil_append]
    rw [readString_apostrophe (literal_ne_quotes holds hapostrophe), readLiteral_append holds]
    rfl
  | basicBlock =>
    simp only [Form.write, List.cons_append, List.append_assoc, List.nil_append, readString]
    exact (block_basicText 0 s).readBlockText_eq hquote isPlain_head_basicText
  | literalBlock =>
    obtain ⟨plain, short⟩ := holds
    have hblock : Block apostrophe 0 s s :=
      block_of_longestRun plain short (by decide) fun h => absurd h (by decide)
    simp only [Form.write, List.cons_append, List.append_assoc, List.nil_append, apostrophe,
      readString]
    refine hblock.readBlockText_eq hapostrophe fun hbreak => ?_
    cases s with
    | nil =>
      rintro _ ⟨⟩
      decide
    | cons c s =>
      rintro _ ⟨⟩
      refine (plain c List.mem_cons_self).resolve_right ?_
      exact fun hc => hbreak (hc ▸ List.mem_cons_self)

theorem readString_stringText (s : String)
    (hrest : ∀ d ∈ rest.head?, d ≠ '"' ∧ d ≠ apostrophe) :
    readString (stringText s ++ rest) = some (s, rest) := by
  rw [stringText, readString_write (Form.holds_plainest _) hrest, String.ofList_toList]

end FleetProfile.Toml
