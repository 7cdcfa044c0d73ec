/-!
Blank characters (the Unicode property `White_Space`) and trimming.
-/
namespace FleetProfile.Text

/-- The characters with the property `White_Space`. -/
def isBlank (c : Char) : Bool :=
  let n := c.toNat
  (9 ≤ n && n ≤ 13) || n == 0x20 || n == 0x85 || n == 0xA0 || n == 0x1680 ||
    (0x2000 ≤ n && n ≤ 0x200A) || n == 0x2028 || n == 0x2029 || n == 0x202F ||
    n == 0x205F || n == 0x3000

def trimStart (s : List Char) : List Char :=
  s.dropWhile isBlank

def trimEnd (s : List Char) : List Char :=
  (s.reverse.dropWhile isBlank).reverse

def trim (s : List Char) : List Char :=
  trimEnd (trimStart s)

def trimmed (s : String) : String :=
  String.ofList (trim s.toList)

@[simp] theorem trim_nil : trim [] = [] := rfl

/-- Trimming takes off the blanks on both sides of a text, and nothing else. -/
theorem trim_padded {lead s trail : List Char} (hlead : ∀ c ∈ lead, isBlank c = true)
    (htrail : ∀ c ∈ trail, isBlank c = true) (hne : s ≠ [])
    (hd : ∀ c ∈ s.head?, isBlank c = false) (tl : ∀ c ∈ s.getLast?, isBlank c = false) :
    trim (lead ++ s ++ trail) = s := by
  have hstart : trimStart (lead ++ s ++ trail) = s ++ trail := by
    rw [List.append_assoc, trimStart, List.dropWhile_append_of_pos hlead]
    cases s with
    | nil => exact absurd rfl hne
    | cons c r => simp [hd c (by simp)]
  have hend : trimEnd (s ++ trail) = s := by
    rw [trimEnd, List.reverse_append,
      List.dropWhile_append_of_pos fun c hc => htrail c (List.mem_reverse.1 hc)]
    rcases List.eq_nil_or_concat s with rfl | ⟨r, c, rfl⟩
    · exact absurd rfl hne
    · simp [tl c (by simp)]
  rw [trim, hstart, hend]

theorem trim_padded_of_forall {lead s trail : List Char} (hlead : ∀ c ∈ lead, isBlank c = true)
    (htrail : ∀ c ∈ trail, isBlank c = true) (hne : s ≠ []) (h : ∀ c ∈ s, isBlank c = false) :
    trim (lead ++ s ++ trail) = s :=
  trim_padded hlead htrail hne (fun c hc => h c (List.mem_of_head? hc))
    fun c hc => h c (List.mem_of_getLast? hc)

/-- A text that begins and ends with a character that is not blank is left alone. -/
theorem trim_eq_self {s : List Char} (hd : ∀ c ∈ s.head?, isBlank c = false)
    (tl : ∀ c ∈ s.getLast?, isBlank c = false) : trim s = s := by
  by_cases hne : s = []
  · rw [hne, trim_nil]
  · simpa using trim_padded (List.forall_mem_nil _) (List.forall_mem_nil _) hne hd tl

theorem head?_trim (s : List Char) : ∀ c ∈ (trim s).head?, isBlank c = false := by
  intro c hc
  have hhead := List.head?_dropWhile_not isBlank s
  obtain ⟨r, hr⟩ : trim s <+: trimStart s := by
    rw [← List.reverse_suffix, trim, trimEnd, List.reverse_reverse]
    exact List.dropWhile_suffix _
  rw [trimStart] at hr
  rw [← hr, List.head?_append, hc] at hhead
  exact hhead

theorem getLast?_trim (s : List Char) : ∀ c ∈ (trim s).getLast?, isBlank c = false := by
  intro c hc
  have hlast := List.head?_dropWhile_not isBlank (trimStart s).reverse
  rw [trim, trimEnd, List.getLast?_reverse] at hc
  rw [hc] at hlast
  exact hlast

@[simp] theorem trim_trim (s : List Char) : trim (trim s) = trim s :=
  trim_eq_self (head?_trim s) (getLast?_trim s)

@[simp] theorem trimmed_trimmed (s : String) : trimmed (trimmed s) = trimmed s := by
  simp only [trimmed, String.toList_ofList, trim_trim]

end FleetProfile.Text
