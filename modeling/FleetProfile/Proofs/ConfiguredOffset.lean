import FleetProfile.Proofs.ValidConfig
import FleetProfile.Proofs.WrittenTimes

/-! The offset that a source is configured with. A text is read from its front: it is refused unless
it begins with an offset, and what follows the minutes is not looked at. -/
namespace FleetProfile

open Text (zeroPad)
open Time (OffsetFault Zone)

namespace Time

/-! ### Spellings -/

/-- The signs before an offset; minus has a typographic form too. -/
def Offset.IsSign : Bool → Char → Prop
  | false, c => c = '+'
  | true, c => c = '-' ∨ c.toNat = 0x2212

/-- A text that is an offset from end to end: a sign, two digits of hours and two of minutes, with
any colons and blanks between them. -/
def Zone.Spelled (z : Zone) (s : List Char) : Prop :=
  ∃ sign gap, Offset.IsSign z.negative sign ∧ (∀ c ∈ gap, c = ':' ∨ Text.isBlank c = true) ∧
    s = sign :: (zeroPad 2 (z.minutes / 60) ++ (gap ++ zeroPad 2 (z.minutes % 60)))

namespace Offset

variable {s r : List Char} {n : Nat}

theorem readSign_eq_ok {negative : Bool} :
    readSign s = .ok (negative, r) ↔ ∃ c, IsSign negative c ∧ s = c :: r := by
  cases s with
  | nil => simp [readSign]
  | cons c cs =>
    have hsign : (∃ d, IsSign negative d ∧ c :: cs = d :: r) ↔ IsSign negative c ∧ cs = r := by
      constructor
      · rintro ⟨d, hd, heq⟩
        obtain ⟨rfl, rfl⟩ := List.cons.inj heq
        exact ⟨hd, rfl⟩
      · rintro ⟨hc, rfl⟩
        exact ⟨c, hc, rfl⟩
    rw [hsign]
    unfold readSign
    by_cases hplus : c = '+'
    · subst hplus
      cases negative <;> simp [IsSign]
    · cases negative <;> by_cases hminus : c = '-' ∨ c.toNat = 0x2212 <;>
        simp [IsSign, hplus, hminus]

/-- Two digits are the number that they are read as. -/
theorem zeroPad_pairValue {a b : Char} (ha : a.isDigit = true) (hb : b.isDigit = true) :
    zeroPad 2 (pairValue a b) = [a, b] ∧ pairValue a b < 100 := by
  obtain ⟨ha₁, ha₂⟩ := Text.toNat_of_isDigit ha
  obtain ⟨hb₁, hb₂⟩ := Text.toNat_of_isDigit hb
  have hlt : pairValue a b < 100 := by
    unfold pairValue
    omega
  obtain ⟨c, d, hcd, hc, hd, hvalue⟩ := exists_pair_zeroPad hlt
  obtain ⟨hc₁, hc₂⟩ := Text.toNat_of_isDigit hc
  obtain ⟨hd₁, hd₂⟩ := Text.toNat_of_isDigit hd
  unfold pairValue at hvalue
  have hca : c = a := Char.toNat_inj.1 (by omega)
  have hdb : d = b := Char.toNat_inj.1 (by omega)
  exact ⟨by rw [hcd, hca, hdb], hlt⟩

theorem takePair_eq_ok {a b : Char} : takePair s = .ok (a, b, r) ↔ s = a :: b :: r := by
  match s with
  | [] => simp [takePair]
  | [c] => simp [takePair]
  | c :: d :: cs => simp [takePair]

theorem readHours_eq_ok : readHours s = .ok (n, r) ↔ n < 100 ∧ s = zeroPad 2 n ++ r := by
  constructor
  · intro h
    obtain ⟨⟨a, b, rest⟩, hpair, h⟩ := bind_eq_ok.1 h
    simp only [Bool.and_eq_true] at h
    split_ifs at h with hdigits
    obtain ⟨rfl, rfl⟩ := Prod.mk.inj (Except.ok.inj h)
    obtain ⟨htext, hlt⟩ := zeroPad_pairValue hdigits.1 hdigits.2
    rw [takePair_eq_ok.1 hpair, htext]
    exact ⟨hlt, rfl⟩
  · rintro ⟨hlt, rfl⟩
    exact readHours_zeroPad hlt r

theorem readMinutes_eq_ok : readMinutes s = .ok (n, r) ↔ n < 60 ∧ s = zeroPad 2 n ++ r := by
  constructor
  · intro h
    obtain ⟨⟨a, b, rest⟩, hpair, h⟩ := bind_eq_ok.1 h
    simp only [Bool.and_eq_true] at h
    split_ifs at h with hdigits hlt
    obtain ⟨rfl, rfl⟩ := Prod.mk.inj (Except.ok.inj h)
    rw [takePair_eq_ok.1 hpair, (zeroPad_pairValue hdigits.1 hdigits.2).1]
    exact ⟨hlt, rfl⟩
  · rintro ⟨hlt, rfl⟩
    exact readMinutes_zeroPad hlt r

/-- The gap ends where the minutes begin. -/
theorem looseGap_append {gap : List Char} (hgap : ∀ c ∈ gap, c = ':' ∨ Text.isBlank c = true)
    (rest : List Char) : looseGap (gap ++ (zeroPad 2 n ++ rest)) = .ok (zeroPad 2 n ++ rest) := by
  obtain ⟨c, ds, hds, hc⟩ := Text.exists_cons_zeroPad 2 n
  have hne : c ≠ ':' := by
    rintro rfl
    exact absurd hc (by decide)
  rw [looseGap, hds]
  refine congrArg Except.ok (takeWhile_dropWhile_append (fun d hd => ?_) fun d hd => ?_).2
  · simpa using hgap d hd
  · rw [← Option.some.inj hd]
    simp [hne, Text.isBlank_of_isDigit hc]

theorem looseGap_eq_ok (h : looseGap s = .ok r) :
    ∃ gap, (∀ c ∈ gap, c = ':' ∨ Text.isBlank c = true) ∧ s = gap ++ r := by
  rw [looseGap] at h
  rw [← Except.ok.inj h]
  refine ⟨s.takeWhile fun c => c == ':' || Text.isBlank c, fun c hc => ?_,
    (List.takeWhile_append_dropWhile ..).symm⟩
  simpa using List.mem_takeWhile_imp hc

/-- A spelling is read up to its end, whatever comes after it. -/
theorem read_append {z : Zone} {head : List Char} (h : z.Spelled head) (rest : List Char) :
    read looseGap (head ++ rest) = .ok (z.seconds, rest) := by
  obtain ⟨sign, gap, hsign, hgap, rfl⟩ := h
  have hlt := z.lt_day
  have hread : ∀ after, readSign (sign :: after) = .ok (z.negative, after) :=
    fun after => readSign_eq_ok.2 ⟨sign, hsign, rfl⟩
  have hhours := readHours_zeroPad (n := z.minutes / 60) (by omega)
  have hminutes := readMinutes_zeroPad (n := z.minutes % 60) (by omega)
  have hseconds : (z.minutes / 60 : Nat) * 3600 + (z.minutes % 60 : Nat) * 60 =
      (z.minutes : Int) * 60 := by
    omega
  simp only [read, bind, Except.bind, List.cons_append, List.append_assoc, hread, hhours,
    looseGap_append hgap, hminutes, hseconds, Zone.seconds]

/-- An offset of less than a day that is read was spelled at the front. -/
theorem exists_spelled_of_read {seconds : Int} {rest : List Char}
    (h : read looseGap s = .ok (seconds, rest)) (hday : isWithinDay seconds = true) :
    ∃ z head, Zone.Spelled z head ∧ s = head ++ rest ∧ z.seconds = seconds := by
  simp only [read, bind_eq_ok, Prod.exists, Except.ok.injEq, Prod.mk.injEq] at h
  obtain ⟨negative, afterSign, hreadSign, hours, afterHours, hreadHours, afterGap, hreadGap,
    minutes, _, hreadMinutes, hvalue, rfl⟩ := h
  obtain ⟨sign, hsign, rfl⟩ := readSign_eq_ok.1 hreadSign
  obtain ⟨-, rfl⟩ := readHours_eq_ok.1 hreadHours
  obtain ⟨gap, hgap, rfl⟩ := looseGap_eq_ok hreadGap
  obtain ⟨hminutes, rfl⟩ := readMinutes_eq_ok.1 hreadMinutes
  simp only [isWithinDay, Bool.and_eq_true, decide_eq_true_eq] at hday
  have hlt : hours * 60 + minutes < 1440 := by
    split_ifs at hvalue <;> omega
  have hdiv : (hours * 60 + minutes) / 60 = hours := by omega
  have hmod : (hours * 60 + minutes) % 60 = minutes := by omega
  refine ⟨⟨negative, hours * 60 + minutes, hlt⟩, _,
    ⟨sign, gap, hsign, hgap, by rw [hdiv, hmod]⟩, by simp, ?_⟩
  rw [← hvalue]
  simp only [Zone.seconds]
  split_ifs <;> omega

/-- A text is accepted if and only if an offset is spelled at its front. -/
theorem parse_eq_ok {seconds : Int} : parse s = .ok seconds ↔
    ∃ z head rest, Zone.Spelled z head ∧ s = head ++ rest ∧ z.seconds = seconds := by
  constructor
  · intro h
    obtain ⟨⟨n, rest⟩, hread, h⟩ := bind_eq_ok.1 h
    simp only at h
    split_ifs at h with hday
    obtain rfl := Except.ok.inj h
    obtain ⟨z, head, hspelled, hs, hz⟩ := exists_spelled_of_read hread hday
    exact ⟨z, head, rest, hspelled, hs, hz⟩
  · rintro ⟨z, head, rest, hspelled, rfl, rfl⟩
    simp only [parse, bind, Except.bind, read_append hspelled, z.isWithinDay_seconds, if_true]

end Offset

end Time

namespace SourceConfig

variable {s : SourceConfig} {text : String}

theorem offset_eq_ok (given : s.utcOffset = some text) {seconds : Int} :
    s.offset = .ok seconds ↔ ∃ z head rest, Zone.Spelled z head ∧
      Text.trim text.toList = head ++ rest ∧ z.seconds = seconds := by
  rw [← Time.Offset.parse_eq_ok, offset, given]
  cases h : Time.Offset.parse (Text.trim text.toList) <;> simp [h]

theorem offset_eq_error (given : s.utcOffset = some text) {e : Error} (h : s.offset = .error e) :
    ∃ fault : OffsetFault, e = .config
      s!"Invalid utc_offset '{text}' for source '{s.name}': {fault.message}" := by
  rw [offset, given] at h
  cases hparse : Time.Offset.parse (Text.trim text.toList) with
  | ok n => simp [hparse] at h
  | error fault => exact ⟨fault, by simpa [hparse] using h.symm⟩

end SourceConfig

namespace Config

/-- Where the sources pass but for an offset, the offset decides. -/
theorem checkSources_offset {seen : List String} {before after : List SourceConfig}
    {s : SourceConfig}
    (h : checkSources seen (before ++ { s with utcOffset := none } :: after) = .ok ()) :
    checkSources seen (before ++ s :: after) = s.offset.map fun _ => () := by
  induction before generalizing seen with
  | nil =>
    simp only [List.nil_append, checkSources, bind_eq_ok, refuse_if_eq_ok] at h
    obtain ⟨_, hname, hnew, _, -, hafter⟩ := h
    simp only [List.nil_append, checkSources, hname, if_neg hnew, bind, Except.bind, hafter]
    cases s.offset <;> rfl
  | cons x before ih =>
    simp only [List.cons_append, checkSources, bind_eq_ok, refuse_if_eq_ok] at h
    obtain ⟨_, hname, hnew, _, hoffset, hrest⟩ := h
    simp only [List.cons_append, checkSources, hname, if_neg hnew, bind, Except.bind, hoffset,
      ih hrest]

theorem validate_offset {c : Config} {before after : List SourceConfig} {s : SourceConfig}
    (h : { c with sources := before ++ { s with utcOffset := none } :: after }.validate = .ok ()) :
    { c with sources := before ++ s :: after }.validate = s.offset.map fun _ => () := by
  simp only [validate, bind_eq_ok, refuse_if_eq_ok] at h
  obtain ⟨_, hname, hversion, hbatch, hworkers, htimeout, hne, hsources⟩ := h
  simp only [validate, hname, if_neg hversion, if_neg hbatch, if_neg hworkers, if_neg htimeout,
    checkSources_offset hsources, bind, Except.bind]
  simp

/-- The offset of a source is the one that its text begins with, whatever comes after it. A
configuration that is valid otherwise is valid if there is one, and else refused for its text. -/
theorem offset_of_front {c : Config} {before after : List SourceConfig} {s : SourceConfig}
    {text : String} (given : s.utcOffset = some text)
    (h : { c with sources := before ++ { s with utcOffset := none } :: after }.validate = .ok ()) :
    (∀ seconds, s.offset = .ok seconds ↔ ∃ z head rest, Zone.Spelled z head ∧
      Text.trim text.toList = head ++ rest ∧ z.seconds = seconds) ∧
    (∀ e, s.offset = .error e → ∃ fault : OffsetFault, e = .config
      s!"Invalid utc_offset '{text}' for source '{s.name}': {fault.message}") ∧
    { c with sources := before ++ s :: after }.validate = s.offset.map fun _ => () :=
  ⟨fun _ => SourceConfig.offset_eq_ok given, fun _ => SourceConfig.offset_eq_error given,
    validate_offset h⟩

/-- The typographic minus, and no colon. -/
theorem offset_of_front_typographic :
    SourceConfig.offset { name := "prod", kind := .synapse, utcOffset := some " −0330" } =
      .ok (-12600) ∧
    validate { pipeline := "nightly", sources :=
      [{ name := "prod", kind := .synapse, utcOffset := some " −0330" }] } = .ok () := by
  have h := @offset_of_front { pipeline := "nightly" } [] []
    { name := "prod", kind := .synapse, utcOffset := some " −0330" } " −0330" rfl
    (by decide +kernel)
  have hoffset := (h.1 (-12600)).2 ⟨⟨true, 210, by decide⟩, "−0330".toList, [],
    ⟨'−', [], .inr rfl, by simp, by decide⟩, by decide +kernel, rfl⟩
  refine ⟨hoffset, h.2.2.trans ?_⟩
  rw [hoffset]
  rfl

/-- Seconds after the minutes make no offset, and are left out of the one that is read. -/
theorem offset_of_longer_text :
    SourceConfig.offset { name := "prod", kind := .synapse, utcOffset := some "+05:53:28" } =
      .ok 21180 ∧
    ¬ ∃ z, Zone.Spelled z (Text.trim "+05:53:28".toList) := by
  refine ⟨by decide +kernel, ?_⟩
  rintro ⟨z, sign, gap, -, hgap, heq⟩
  have hlt := z.lt_day
  obtain ⟨a, b, hhours, -⟩ := Time.Offset.exists_pair_zeroPad (n := z.minutes / 60) (by omega)
  obtain ⟨c, d, hminutes, -⟩ := Time.Offset.exists_pair_zeroPad (n := z.minutes % 60) (by omega)
  have htext : Text.trim "+05:53:28".toList =
      '+' :: (['0', '5'] ++ ([':', '5', '3', ':'] ++ ['2', '8'])) := by decide +kernel
  rw [htext, hhours, hminutes] at heq
  have hparts := List.append_inj_left' (List.append_inj_right (List.cons.inj heq).2 rfl) rfl
  exact absurd (hgap '5' (hparts ▸ by decide)) (by decide)

end Config

end FleetProfile
