import Triage.Proofs.Latin
import Triage.Proofs.Pieces
import Triage.RequestId

/-!
# Only plain tokens become ids

What a request brings is trimmed and taken over only if it is a plain token
(`IsPlain`); the line break that the pattern for ids lets pass is never there, because it
is a blank and has been trimmed away (`isAccepted_trim`). What is bound is therefore the
trimmed text, which is plain, or the next id of the supply, which is plain as well
(`bindBy_eq`). A plain token has no blanks, so trimming leaves it alone, and an id that is
brought back is taken over as it is.

Along a run, a number of the supply is used up by every text that is not taken over and by
nothing else (`Binding.next_after`).
-/

namespace Triage.Text

/-! ## Hexadecimal digits -/

theorem length_hexDigits (width n : Nat) : (hexDigits width n).length = width := by
  induction width generalizing n with
  | zero => rfl
  | succ width ih => simp [hexDigits, ih]

theorem mem_of_mem_hexDigits {c : Char} {width n : Nat} (h : c ∈ hexDigits width n) :
    c ∈ "0123456789abcdef".toList := by
  have hdigit : ∀ k : Fin 16, hexDigit k ∈ "0123456789abcdef".toList := by decide
  obtain ⟨k, rfl⟩ := exists_of_mem_hexDigits h
  exact hdigit k

/-- The digits of a number that they have room for say which number it is. -/
theorem hexDigits_inj {width m n : Nat} (hm : m < Nat.pow 16 width) (hn : n < Nat.pow 16 width)
    (h : hexDigits width m = hexDigits width n) : m = n := by
  have hdigit : ∀ j k : Fin 16, hexDigit j = hexDigit k → j = k := by decide
  induction width generalizing m n with
  | zero =>
      have hone : Nat.pow 16 0 = 1 := rfl
      omega
  | succ width ih =>
      have hpow : Nat.pow 16 (width + 1) = Nat.pow 16 width * 16 := rfl
      obtain ⟨hfront, hlast⟩ := List.append_inj' h rfl
      have hhigh : m / 16 = n / 16 := ih (by omega) (by omega) hfront
      have hlow : m % 16 = n % 16 :=
        Fin.mk.inj (hdigit ⟨m % 16, Nat.mod_lt m (by decide)⟩ ⟨n % 16, Nat.mod_lt n (by decide)⟩
          (List.cons.inj hlast).1)
      omega

end Triage.Text

namespace Triage.RequestId

open Text

/-! ## Plain tokens -/

/-- What an id looks like. -/
structure IsPlain (id : String) : Prop where
  notEmpty : 1 ≤ id.length
  short : id.length ≤ 128
  plain : ∀ c ∈ id.toList, c.isAlphanum = true ∨ c ∈ ['.', '_', ':', '-']

theorem isTokenChar_eq_true_iff {c : Char} :
    isTokenChar c = true ↔ c.isAlphanum = true ∨ c ∈ ['.', '_', ':', '-'] := by
  have halphanum : c.isAlphanum = (decide ('A'.val ≤ c.val ∧ c.val ≤ 'Z'.val)
      || (decide ('a'.val ≤ c.val) && decide (c.val ≤ 'z'.val))
      || (decide ('0'.val ≤ c.val) && decide (c.val ≤ '9'.val))) := rfl
  rw [halphanum]
  simp only [isTokenChar, Bool.or_eq_true, Bool.and_eq_true, decide_eq_true_eq, beq_iff_eq,
    Char.le_def, List.mem_cons, List.not_mem_nil, or_false, or_assoc]

theorem isToken_eq_true_iff {cs : List Char} :
    isToken cs = true ↔ IsPlain (String.ofList cs) := by
  have hlength : (String.ofList cs).length = cs.length := String.length_ofList
  have hempty : cs.isEmpty = false ↔ 1 ≤ cs.length := by
    rw [List.isEmpty_eq_false_iff, ← List.length_pos_iff]
    exact Iff.rfl
  have hall : cs.all isTokenChar = true ↔
      ∀ c ∈ (String.ofList cs).toList, c.isAlphanum = true ∨ c ∈ ['.', '_', ':', '-'] := by
    simp only [List.all_eq_true, isTokenChar_eq_true_iff, String.toList_ofList]
  rw [isToken, Bool.and_eq_true, Bool.and_eq_true, Bool.not_eq_true', hempty, hall, ← hlength,
    decide_eq_true_eq]
  exact ⟨fun ⟨⟨hne, hshort⟩, hplain⟩ => ⟨hne, hshort, hplain⟩,
    fun ⟨hne, hshort, hplain⟩ => ⟨⟨hne, hshort⟩, hplain⟩⟩

instance : DecidablePred IsPlain := fun id =>
  decidable_of_iff (isToken id.toList = true) (by rw [isToken_eq_true_iff, String.ofList_toList])

/-- Characters at which a text may be broken into lines. -/
def lineBreaks : List Char := [
  '\n', '\r', '\x0b', '\x0c', '\x1c', '\x1d', '\x1e', '\x85', '\u2028', '\u2029']

def quotes : List Char := ['"', '\'', '`']

theorem toNat_lt_of_isTokenChar {c : Char} (h : isTokenChar c = true) : c.toNat < 0x80 := by
  simp only [isTokenChar, Bool.or_eq_true, Bool.and_eq_true, decide_eq_true_eq, beq_iff_eq,
    Char.le_def, UInt32.le_iff_toNat_le] at h
  have hcapital : ('Z' : Char).val.toNat = 90 := by decide
  have hsmall : ('z' : Char).val.toNat = 122 := by decide
  have hdigit : ('9' : Char).val.toNat = 57 := by decide
  show c.val.toNat < 128
  rcases h with ((((((h | h) | h) | rfl) | rfl) | rfl) | rfl)
  · omega
  · omega
  · omega
  all_goals decide

namespace IsPlain

variable {id : String} {c : Char}

theorem toNat_lt (h : IsPlain id) (hc : c ∈ id.toList) : c.toNat < 0x80 :=
  toNat_lt_of_isTokenChar (isTokenChar_eq_true_iff.mpr (h.plain c hc))

theorem isClean (h : IsPlain id) (hc : c ∈ id.toList) :
    isBlank c = false ∧ c ∉ lineBreaks ∧ c ∉ quotes :=
  of_toNat_lt (P := fun c => isTokenChar c = true →
      isBlank c = false ∧ c ∉ lineBreaks ∧ c ∉ quotes) (by decide +kernel)
    (h.toNat_lt hc) (isTokenChar_eq_true_iff.mpr (h.plain c hc))

theorem trimmed_eq (h : IsPlain id) : trimmed id = id := by
  unfold trimmed
  rw [trim_of_no_blanks fun c hc => (h.isClean hc).1, String.ofList_toList]

theorem ne_empty (h : IsPlain id) : id ≠ "" := by
  rintro rfl
  exact absurd h.notEmpty (by decide)

theorem isLatinText (h : IsPlain id) : IsLatinText id := by
  refine isLatinText_ofString_iff.mpr fun c hc => ?_
  have hlow := h.toNat_lt hc
  rw [isLatin, Glyph.toNat, decide_eq_true_iff]
  omega

end IsPlain

/-! ## Taking over or generating -/

/-- What a request brings, without blanks around it. -/
def offered (incoming : Option String) : String := trimmed (incoming.getD "")

/-- The line break that the pattern lets pass has been trimmed away. -/
theorem isAccepted_trim (cs : List Char) : isAccepted (trim cs) = isToken (trim cs) := by
  have hbreak : ((trim cs).getLast? == some '\n') = false := by
    rw [beq_eq_false_iff_ne]
    intro hlast
    exact absurd (isBlank_getLast_trim hlast) (by decide)
  unfold isAccepted
  rw [hbreak, Bool.false_and, Bool.or_false]

variable {generate : Nat → String}

theorem bindBy_eq (generate : Nat → String) (incoming : Option String) (next : Nat) :
    bindBy generate incoming next =
      if IsPlain (offered incoming) then (offered incoming, next)
      else (generate next, next + 1) := by
  have hplain : isToken (trim (incoming.getD "").toList) = true ↔ IsPlain (offered incoming) :=
    isToken_eq_true_iff
  simp only [bindBy, isAccepted_trim, hplain]
  rfl

/-! ## Generated ids -/

/-- What a generated id looks like: 32 small hexadecimal digits. -/
structure IsGenerated (id : String) : Prop where
  length : id.length = 32
  digits : ∀ c ∈ id.toList, c ∈ "0123456789abcdef".toList

theorem IsGenerated.isPlain {id : String} (h : IsGenerated id) : IsPlain id where
  notEmpty := by rw [h.length]; decide
  short := by rw [h.length]; decide
  plain := by
    have hall : "0123456789abcdef".toList.all Char.isAlphanum = true := by decide +kernel
    exact fun c hc => Or.inl (List.all_eq_true.mp hall c (h.digits c hc))

/-- The `count` ids from number `first` on look generated, and no two of them are the same. -/
structure Supplies (generate : Nat → String) (first count : Nat) : Prop where
  isGenerated : ∀ n, first ≤ n → n < first + count → IsGenerated (generate n)
  distinct : ∀ m n, first ≤ m → m < n → n < first + count → generate m ≠ generate n

theorem isGenerated_generated (n : Nat) : IsGenerated (generated n) where
  length := by rw [generated, String.length_ofList, length_hexDigits, generatedLength]
  digits := fun c hc => mem_of_mem_hexDigits (by rwa [generated, String.toList_ofList] at hc)

/-- Numbering the ids is a way to generate them, for as long as the digits last. -/
theorem supplies_generated {first count : Nat} (h : first + count ≤ Nat.pow 16 generatedLength) :
    Supplies generated first count where
  isGenerated := fun n _ _ => isGenerated_generated n
  distinct := fun m n _ hmn hn heq => by
    have hsame : m = n := hexDigits_inj (by omega) (by omega) (String.ofList_injective heq)
    omega

/-! ## Runs -/

/-- How many of several texts are not taken over. -/
def rejections (incoming : List (Option String)) : Nat :=
  incoming.countP fun v => ¬IsPlain (offered v)

theorem rejections_take_mono (incoming : List (Option String)) {j k : Nat} (h : j ≤ k) :
    rejections (incoming.take j) ≤ rejections (incoming.take k) :=
  (List.take_sublist_take_left h).countP_le

theorem rejections_take_le (incoming : List (Option String)) (k : Nat) :
    rejections (incoming.take k) ≤ rejections incoming :=
  (List.take_sublist k incoming).countP_le

theorem rejections_take_succ {incoming : List (Option String)} {k : Nat} {v : Option String}
    (hv : incoming[k]? = some v) (hplain : ¬IsPlain (offered v)) :
    rejections (incoming.take (k + 1)) = rejections (incoming.take k) + 1 := by
  unfold rejections
  rw [List.take_add_one, hv, List.countP_append]
  simp [hplain]

namespace Binding

theorem set_eq (b : Binding) (v : Option String) :
    b.set generate v = ((bindBy generate v b.next).1,
      ⟨(bindBy generate v b.next).1, (bindBy generate v b.next).2⟩) := rfl

theorem next_set (b : Binding) (v : Option String) :
    (b.set generate v).2.next = b.next + rejections [v] := by
  rw [set_eq, bindBy_eq]
  by_cases h : IsPlain (offered v) <;> simp [rejections, h]

/-- A number of the supply is used up by every text that is not taken over. -/
theorem next_after (b : Binding) (incoming : List (Option String)) :
    (b.after generate incoming).next = b.next + rejections incoming := by
  induction incoming generalizing b with
  | nil => rfl
  | cons v rest ih =>
      have hcount : rejections (v :: rest) = rejections [v] + rejections rest := by
        unfold rejections
        rw [← List.singleton_append, List.countP_append]
      have hrest := ih (b.set generate v).2
      rw [next_set] at hrest
      rw [hcount, ← Nat.add_assoc]
      exact hrest

end Binding

/-- What is told for a text, and bound, after several others. The supply started at the
number `first`. -/
structure IsTold (generate : Nat → String) (first : Nat) (earlier : List (Option String))
    (v : Option String) (told : String × Binding) : Prop where
  current : told.2.current = told.1
  taken_iff : told.1 = offered v ↔ IsPlain (offered v)
  replaced : ¬IsPlain (offered v) → told.1 = generate (first + rejections earlier)
  used : told.2.next = first + rejections (earlier ++ [v])
  isPlain : IsPlain told.1
  isClean : ∀ c ∈ told.1.toList, isBlank c = false ∧ c ∉ lineBreaks ∧ c ∉ quotes
  /-- An id that is brought back is taken over, and no number is used up for it. -/
  again : ∀ b : Binding, b.set generate (some told.1) = (told.1, { b with current := told.1 })

/-- A plain id that is brought is taken over as it is. -/
theorem Binding.set_of_isPlain {id : String} (h : IsPlain id) (b : Binding) :
    b.set generate (some id) = (id, { b with current := id }) := by
  have hoffered : offered (some id) = id := h.trimmed_eq
  rw [set_eq, bindBy_eq, hoffered, if_pos h]

/-- One binding, where the numbers used up so far are those of the texts not taken over. -/
theorem isTold_set {b : Binding} {first : Nat} {earlier : List (Option String)}
    {v : Option String} (hnext : b.next = first + rejections earlier)
    (hgenerated : ¬IsPlain (offered v) → IsGenerated (generate b.next)) :
    IsTold generate first earlier v (b.set generate v) := by
  have hused : (b.set generate v).2.next = first + rejections (earlier ++ [v]) := by
    have happend : rejections (earlier ++ [v]) = rejections earlier + rejections [v] :=
      List.countP_append
    rw [Binding.next_set, hnext, happend, Nat.add_assoc]
  by_cases h : IsPlain (offered v)
  · have htold : (b.set generate v).1 = offered v := by rw [Binding.set_eq, bindBy_eq, if_pos h]
    have hplain : IsPlain (b.set generate v).1 := htold ▸ h
    exact {
      current := rfl
      taken_iff := iff_of_true htold h
      replaced := fun hnot => absurd h hnot
      used := hused
      isPlain := hplain
      isClean := fun c hc => hplain.isClean hc
      again := Binding.set_of_isPlain hplain }
  · have htold : (b.set generate v).1 = generate b.next := by
      rw [Binding.set_eq, bindBy_eq, if_neg h]
    have hplain : IsPlain (b.set generate v).1 := htold ▸ (hgenerated h).isPlain
    exact {
      current := rfl
      taken_iff := iff_of_false (fun hsame => h (hsame ▸ hplain)) h
      replaced := fun _ => hnext ▸ htold
      used := hused
      isPlain := hplain
      isClean := fun c hc => hplain.isClean hc
      again := Binding.set_of_isPlain hplain }

/-- **Only plain tokens are bound.** Whatever several requests bring, each is told the id
that is bound then: what it brought, trimmed, exactly if that is a plain token, and else the
next id of the supply. The ids that are generated in different places are different ones. -/
theorem only_plain_tokens_are_bound (generate : Nat → String) (b : Binding)
    (incoming : List (Option String))
    (hsupply : Supplies generate b.next (rejections incoming)) :
    (∀ k v, incoming[k]? = some v →
      ∃ told, (b.run generate incoming)[k]? = some told
        ∧ IsTold generate b.next (incoming.take k) v told)
    ∧ ∀ (j k : Nat) (v w : Option String), j < k →
        incoming[j]? = some v → incoming[k]? = some w →
        ¬IsPlain (offered v) → ¬IsPlain (offered w) →
        ∃ told later : String × Binding, (b.run generate incoming)[j]? = some told
          ∧ (b.run generate incoming)[k]? = some later ∧ told.1 ≠ later.1 := by
  -- The number that is up at a place is one of the supply if it is used there.
  have hup : ∀ {k v}, incoming[k]? = some v → ¬IsPlain (offered v) →
      rejections (incoming.take k) < rejections incoming := by
    intro k v hv hnot
    have hsucc := rejections_take_succ hv hnot
    have hle := rejections_take_le incoming (k + 1)
    omega
  have htold : ∀ k v, incoming[k]? = some v →
      ∃ told, (b.run generate incoming)[k]? = some told
        ∧ IsTold generate b.next (incoming.take k) v told := by
    intro k v hv
    have hnext : (b.after generate (incoming.take k)).next =
        b.next + rejections (incoming.take k) := Binding.next_after b _
    refine ⟨_, by rw [Binding.getElem?_run, hv]; rfl, isTold_set hnext fun hnot => ?_⟩
    have hlt := hup hv hnot
    exact hsupply.isGenerated _ (by omega) (by omega)
  refine ⟨htold, fun j k v w hjk hv hw hnotv hnotw => ?_⟩
  obtain ⟨told, hrunj, hj⟩ := htold j v hv
  obtain ⟨later, hrunk, hk⟩ := htold k w hw
  refine ⟨told, later, hrunj, hrunk, ?_⟩
  rw [hj.replaced hnotv, hk.replaced hnotw]
  have hsucc := rejections_take_succ hv hnotv
  have hmono := rejections_take_mono incoming (show j + 1 ≤ k from hjk)
  have hlt := hup hw hnotw
  exact hsupply.distinct _ _ (by omega) (by omega) (by omega)

/-- Two texts that are no ids, around one that is an id with blanks around it. -/
def mixedRequests : List (Option String) :=
  [some "bad id\x0d\nX-Injected: 1", some "  abc-123\n", none]

theorem mixedRequests_are_told :
    ({} : Binding).run generated mixedRequests = [
        ("00000000000000000000000000000001", ⟨"00000000000000000000000000000001", 2⟩),
        ("abc-123", ⟨"abc-123", 2⟩),
        ("00000000000000000000000000000002", ⟨"00000000000000000000000000000002", 3⟩)]
      ∧ IsTold generated 1 [some "bad id\x0d\nX-Injected: 1"] (some "  abc-123\n")
        ("abc-123", ⟨"abc-123", 2⟩)
      ∧ "00000000000000000000000000000001" ≠ "00000000000000000000000000000002" := by
  have hrun : ({} : Binding).run generated mixedRequests = [
      ("00000000000000000000000000000001", ⟨"00000000000000000000000000000001", 2⟩),
      ("abc-123", ⟨"abc-123", 2⟩),
      ("00000000000000000000000000000002", ⟨"00000000000000000000000000000002", 3⟩)] := by
    decide +kernel
  obtain ⟨htold, hdistinct⟩ := only_plain_tokens_are_bound generated {} mixedRequests
    (supplies_generated (by decide +kernel))
  obtain ⟨second, hsecond, histold⟩ := htold 1 (some "  abc-123\n") rfl
  obtain ⟨first, third, hfirst, hthird, hne⟩ := hdistinct 0 2
    (some "bad id\x0d\nX-Injected: 1") none (by decide) rfl rfl (by decide +kernel)
    (by decide +kernel)
  rw [hrun] at hsecond hfirst hthird
  obtain rfl := Option.some.inj hsecond
  obtain rfl := Option.some.inj hfirst
  obtain rfl := Option.some.inj hthird
  exact ⟨hrun, histold, hne⟩

end Triage.RequestId
