import ClientAccess.Proofs.Json.Reading
import ClientAccess.Proofs.Json.Spelling

/-! Texts between quotes. The machine takes exactly the characters that spell a text, piece by piece,
and between two pieces it knows what has been taken of the one at hand. -/
namespace ClientAccess.Json

open Machine (Takes)

variable {limit : Nat} {stack : List Frame} {purpose : Purpose}
  {chars chars' cs s w digits : List Char} {c l : Char} {n d : Nat} {lead : Option Nat}
  {m : Machine} {escape : Escape}

theorem escapedChar?_eq_some_iff : escapedChar? l = some c ↔ (l, c) ∈ letterEscapes := by
  constructor
  · intro h
    unfold escapedChar? at h
    split at h <;> cases h <;> decide
  · intro h
    simp only [letterEscapes, List.mem_cons, Prod.mk.injEq, List.not_mem_nil, or_false] at h
    rcases h with ⟨rfl, rfl⟩ | ⟨rfl, rfl⟩ | ⟨rfl, rfl⟩ | ⟨rfl, rfl⟩ | ⟨rfl, rfl⟩ | ⟨rfl, rfl⟩ |
      ⟨rfl, rfl⟩ | ⟨rfl, rfl⟩ <;> rfl

/-! Digits of base sixteen take a byte each, so four bytes of them are four digits. -/

theorem utf8Size_of_hexValue? (h : Text.hexValue? c = some d) : c.utf8Size = 1 := by
  have hsmall {z : Char} (hz : z.val ≤ 127) (hc : c ≤ z) : c.utf8Size = 1 :=
    Char.utf8Size_eq_one_iff.2 (UInt32.le_trans hc hz)
  unfold Text.hexValue? at h
  split at h
  · next hc => exact hsmall (by decide) hc.2
  split at h
  · next hc => exact hsmall (by decide) hc.2
  split at h
  · next hc => exact hsmall (by decide) hc.2
  · cases h

theorem utf8Size_of_readDigits? (h : Text.readDigits? 16 digits = some n) :
    ∀ c ∈ digits, c.utf8Size = 1 := by
  rw [Text.readDigits?] at h
  generalize 0 = before at h
  induction digits generalizing before with
  | nil => exact List.forall_mem_nil _
  | cons c cs ih =>
    rw [List.foldlM_cons] at h
    obtain ⟨after, hfirst, hrest⟩ := Option.bind_eq_some_iff.1 h
    obtain ⟨d, hdigit, -⟩ := Option.map_eq_some_iff.1 hfirst
    rw [Text.digitValue?, Option.filter_eq_some_iff] at hdigit
    exact List.forall_mem_cons.2 ⟨utf8Size_of_hexValue? hdigit.1, ih after hrest⟩

theorem bytesOf_cons (c : Char) (cs : List Char) : bytesOf (c :: cs) = c.utf8Size + bytesOf cs := by
  have hfrom (start : Nat) : cs.foldl (fun bytes c => bytes + c.utf8Size) start =
      start + bytesOf cs := by
    rw [bytesOf]
    induction cs generalizing start with
    | nil => rfl
    | cons e es ih =>
      rw [List.foldl_cons, List.foldl_cons, ih, ih (0 + e.utf8Size)]
      omega
  rw [bytesOf, List.foldl_cons, hfrom, Nat.zero_add]

theorem bytesOf_eq_length (h : ∀ c ∈ cs, c.utf8Size = 1) : bytesOf cs = cs.length := by
  induction cs with
  | nil => rfl
  | cons c cs ih =>
    obtain ⟨hfirst, hrest⟩ := List.forall_mem_cons.1 h
    rw [bytesOf_cons, hfirst, ih hrest, List.length_cons, Nat.add_comm]

def afterUnit (stack : List Frame) (purpose : Purpose) (chars : List Char) (n : Nat) :
    Option Nat → Step
  | none =>
    if 0xDC00 ≤ n ∧ n ≤ 0xDFFF then refuse .loneSurrogate
    else if 0xD800 ≤ n ∧ n ≤ 0xDBFF then .ok ⟨stack, .text purpose chars (.afterLead n)⟩
    else .ok ⟨stack, .text purpose (Char.ofNat n :: chars) .none⟩
  | some high =>
    if 0xDC00 ≤ n ∧ n ≤ 0xDFFF then
      .ok ⟨stack, .text purpose
        (Char.ofNat (0x10000 + (high - 0xD800) * 0x400 + (n - 0xDC00)) :: chars) .none⟩
    else refuse .loneSurrogate

theorem step_hex_of_lt (h : bytesOf (c :: digits) < 4) :
    inText stack purpose chars (.hex digits lead) c =
      .ok ⟨stack, .text purpose chars (.hex (c :: digits) lead)⟩ := by
  simp only [inText, if_pos h]

theorem step_hex_of_read (h : ¬ bytesOf (c :: digits) < 4)
    (hread : Text.readDigits? 16 (c :: digits).reverse = some n) :
    inText stack purpose chars (.hex digits lead) c = afterUnit stack purpose chars n lead := by
  cases lead <;> simp only [inText, if_neg h, hread, afterUnit]

theorem step_hex_of_none (h : ¬ bytesOf (c :: digits) < 4)
    (hread : Text.readDigits? 16 (c :: digits).reverse = none) :
    inText stack purpose chars (.hex digits lead) c = .error (.badEscape, 4 - bytesOf digits) := by
  cases lead <;> simp only [inText, if_neg h, hread]

theorem takes_hex (hsize : ∀ c ∈ cs, c.utf8Size = 1) (hdigits : ∀ c ∈ digits, c.utf8Size = 1)
    (hlength : digits.length + cs.length < 4) :
    Takes limit ⟨stack, .text purpose chars (.hex digits lead)⟩ cs
      ⟨stack, .text purpose chars (.hex (cs.reverse ++ digits) lead)⟩ := by
  induction cs generalizing digits with
  | nil => exact Takes.nil
  | cons c cs ih =>
    obtain ⟨hfirst, hrest⟩ := List.forall_mem_cons.1 hsize
    have hmore : ∀ e ∈ c :: digits, e.utf8Size = 1 := List.forall_mem_cons.2 ⟨hfirst, hdigits⟩
    rw [List.length_cons] at hlength
    have hfew : bytesOf (c :: digits) < 4 := by
      rw [bytesOf_eq_length hmore, List.length_cons]
      omega
    have hnext := ih hrest hmore (by rw [List.length_cons]; omega)
    rw [List.reverse_cons, List.append_assoc]
    exact Takes.cons (step_hex_of_lt hfew) hnext

theorem takes_unit (h : IsUnit digits n) (hm : afterUnit stack purpose chars n lead = .ok m) :
    Takes limit ⟨stack, .text purpose chars (.hex [] lead)⟩ digits m := by
  obtain ⟨hlength, hread⟩ := h
  have hsize := utf8Size_of_readDigits? hread
  obtain ⟨front, last, rfl⟩ : ∃ front last, digits = front ++ [last] :=
    ⟨_, _, (List.dropLast_concat_getLast (List.ne_nil_of_length_pos (by omega))).symm⟩
  obtain ⟨hfront, -⟩ := List.forall_mem_append.1 hsize
  rw [List.length_append, List.length_singleton] at hlength
  -- The first three digits are only kept; the fourth makes the machine look at them.
  have htake : Takes limit ⟨stack, .text purpose chars (.hex [] lead)⟩ front
      ⟨stack, .text purpose chars (.hex (front.reverse ++ []) lead)⟩ :=
    takes_hex hfront (List.forall_mem_nil _) (by rw [List.length_nil]; omega)
  refine htake.append (Takes.single ?_)
  have hreverse : last :: (front.reverse ++ []) = (front ++ [last]).reverse := by simp
  have hbytes : bytesOf (last :: (front.reverse ++ [])) = 4 := by
    rw [hreverse, bytesOf_eq_length fun c hc => hsize c (List.mem_reverse.1 hc)]
    simpa using hlength
  have hvalue : Text.readDigits? 16 (last :: (front.reverse ++ [])).reverse = some n := by
    rw [hreverse, List.reverse_reverse, hread]
  exact (step_hex_of_read (by omega) hvalue).trans hm

theorem takes_piece (h : Piece w c) :
    Takes limit ⟨stack, .text purpose chars .none⟩ w ⟨stack, .text purpose (c :: chars) .none⟩ := by
  cases h with
  | plain quote backslash control =>
    refine Takes.single ?_
    simp [Machine.step, inText, quote, backslash, Nat.not_lt.2 control]
  | letter hescape =>
    refine Takes.cons rfl (Takes.single ?_)
    have hc := escapedChar?_eq_some_iff.2 hescape
    simp only [Machine.step, inText]
    split
    · next hu =>
      rw [hu] at hc
      cases hc
    · rw [hc]
  | unit digits_eq lead trail =>
    exact Takes.cons rfl (Takes.cons rfl (takes_unit digits_eq ((if_neg trail).trans (if_neg lead))))
  | @pair front back high low front_eq lead back_eq trail =>
    have hlone : ¬ IsTrail high := fun h => by
      have hhigh := lead.2
      have hlow := h.1
      omega
    have hfront : Takes limit ⟨stack, .text purpose chars .none⟩ ('\\' :: 'u' :: front)
        ⟨stack, .text purpose chars (.afterLead high)⟩ :=
      Takes.cons rfl (Takes.cons rfl (takes_unit front_eq ((if_neg hlone).trans (if_pos lead))))
    exact hfront.append (Takes.cons rfl (Takes.cons rfl (takes_unit back_eq (if_pos trail))))

theorem takes_body (h : Body cs s) :
    Takes limit ⟨stack, .text purpose [] .none⟩ cs ⟨stack, .text purpose s.reverse .none⟩ := by
  induction h with
  | nil => exact Takes.nil
  | snoc front last ih =>
    rw [List.reverse_concat]
    exact ih.append (takes_piece last)

theorem takes_text (purpose : Purpose) (h : Body cs s) :
    Takes limit ⟨stack, .text purpose [] .none⟩ (cs ++ ['"'])
      (closing stack (String.ofList s) purpose) := by
  refine (takes_body h).append (Takes.single ?_)
  cases purpose with
  | value => simp [Machine.step, inText, closing]
  | key members => simp [Machine.step, inText, closing]

/-- What has been taken since the opening quote, for characters `s` and a beginning of the next. -/
inductive Escape.Within : Escape → List Char → List Char → Prop
  | none {cs s : List Char} (body : Body cs s) : Within .none cs s
  | backslash {cs s : List Char} (body : Body cs s) : Within .backslash (cs ++ ['\\']) s
  | hex {cs s digits : List Char} (body : Body cs s) (few : bytesOf digits < 4) :
    Within (.hex digits .none) (cs ++ '\\' :: 'u' :: digits.reverse) s
  | afterLead {cs s front : List Char} {high : Nat} (body : Body cs s)
    (front_eq : IsUnit front high) (lead : IsLead high) :
    Within (.afterLead high) (cs ++ '\\' :: 'u' :: front) s
  | beforeLow {cs s front : List Char} {high : Nat} (body : Body cs s)
    (front_eq : IsUnit front high) (lead : IsLead high) :
    Within (.beforeLow high) (cs ++ '\\' :: 'u' :: front ++ ['\\']) s
  | low {cs s front digits : List Char} {high : Nat} (body : Body cs s)
    (front_eq : IsUnit front high) (lead : IsLead high) (few : bytesOf digits < 4) :
    Within (.hex digits (some high))
      (cs ++ '\\' :: 'u' :: front ++ '\\' :: 'u' :: digits.reverse) s

theorem Escape.Within.body (h : Escape.none.Within cs s) : Body cs s := by
  cases h with
  | none body => exact body

theorem isUnit_of_few (hfew : bytesOf digits < 4) (hfull : ¬ bytesOf (c :: digits) < 4)
    (hread : Text.readDigits? 16 (c :: digits).reverse = some n) :
    IsUnit (digits.reverse ++ [c]) n := by
  rw [List.reverse_cons] at hread
  have hsize := utf8Size_of_readDigits? hread
  obtain ⟨hdigits, hlast⟩ := List.forall_mem_append.1 hsize
  have hc : c.utf8Size = 1 := hlast c (List.mem_singleton_self c)
  have hlength : bytesOf digits = digits.length :=
    bytesOf_eq_length fun e he => hdigits e (List.mem_reverse.2 he)
  rw [bytesOf_cons, hc] at hfull
  refine ⟨?_, hread⟩
  rw [List.length_append, List.length_reverse, List.length_singleton]
  omega

theorem within_after_none (h : Body cs chars.reverse)
    (hm : inText stack purpose chars .none c = .ok ⟨stack, .text purpose chars' escape⟩) :
    escape.Within (cs ++ [c]) chars'.reverse := by
  simp only [inText] at hm
  split at hm
  · cases purpose <;> cases hm
  split at hm
  · next hc =>
    cases hm
    rw [hc]
    exact .backslash h
  split at hm
  · cases hm
  · next hquote hback hcontrol =>
    cases hm
    rw [List.reverse_cons]
    exact .none (h.snoc (.plain hquote hback (Nat.not_lt.1 hcontrol)))

theorem within_after_backslash (h : Body cs chars.reverse)
    (hm : inText stack purpose chars .backslash c = .ok ⟨stack, .text purpose chars' escape⟩) :
    escape.Within (cs ++ ['\\'] ++ [c]) chars'.reverse := by
  rw [List.append_assoc]
  simp only [inText] at hm
  split at hm
  · next hc =>
    cases hm
    rw [hc]
    exact .hex h (show bytesOf [] < 4 by decide)
  · split at hm
    · next d hd =>
      cases hm
      rw [List.reverse_cons]
      exact .none (h.snoc (.letter (escapedChar?_eq_some_iff.1 hd)))
    · cases hm

theorem within_after_hex (h : Body cs chars.reverse) (hfew : bytesOf digits < 4)
    (hm : inText stack purpose chars (.hex digits none) c =
      .ok ⟨stack, .text purpose chars' escape⟩) :
    escape.Within (cs ++ '\\' :: 'u' :: digits.reverse ++ [c]) chars'.reverse := by
  by_cases hless : bytesOf (c :: digits) < 4
  · rw [step_hex_of_lt hless] at hm
    cases hm
    simpa using Escape.Within.hex h hless
  · cases hread : Text.readDigits? 16 (c :: digits).reverse with
    | none =>
      rw [step_hex_of_none hless hread] at hm
      cases hm
    | some n =>
      have hunit := isUnit_of_few hfew hless hread
      rw [step_hex_of_read hless hread, afterUnit] at hm
      split at hm
      · cases hm
      · next htrail =>
        split at hm
        · next hlead =>
          cases hm
          simpa using Escape.Within.afterLead h hunit hlead
        · next hlead =>
          cases hm
          rw [List.reverse_cons]
          simpa using Escape.Within.none (h.snoc (.unit hunit hlead htrail))

theorem within_after_low {high : Nat} (h : Body cs chars.reverse) (hunit : IsUnit w high)
    (hlead : IsLead high) (hfew : bytesOf digits < 4)
    (hm : inText stack purpose chars (.hex digits (some high)) c =
      .ok ⟨stack, .text purpose chars' escape⟩) :
    escape.Within (cs ++ '\\' :: 'u' :: w ++ '\\' :: 'u' :: digits.reverse ++ [c])
      chars'.reverse := by
  by_cases hless : bytesOf (c :: digits) < 4
  · rw [step_hex_of_lt hless] at hm
    cases hm
    simpa using Escape.Within.low h hunit hlead hless
  · cases hread : Text.readDigits? 16 (c :: digits).reverse with
    | none =>
      rw [step_hex_of_none hless hread] at hm
      cases hm
    | some n =>
      rw [step_hex_of_read hless hread, afterUnit] at hm
      split at hm
      · next htrail =>
        cases hm
        have hpair := Piece.pair hunit hlead (isUnit_of_few hfew hless hread) htrail
        rw [List.reverse_cons]
        simpa using Escape.Within.none (h.snoc hpair)
      · cases hm

theorem Escape.Within.step {before : Escape} (h : before.Within cs chars.reverse)
    (hm : inText stack purpose chars before c = .ok ⟨stack, .text purpose chars' escape⟩) :
    escape.Within (cs ++ [c]) chars'.reverse := by
  cases h with
  | none body => exact within_after_none body hm
  | backslash body => exact within_after_backslash body hm
  | hex body few => exact within_after_hex body few hm
  | afterLead body front_eq lead =>
    simp only [inText] at hm
    split at hm
    · next hc =>
      cases hm
      rw [hc]
      exact .beforeLow body front_eq lead
    · cases hm
  | beforeLow body front_eq lead =>
    simp only [inText] at hm
    split at hm
    · next hc =>
      cases hm
      rw [hc]
      simpa using Escape.Within.low body front_eq lead (show bytesOf [] < 4 by decide)
    · cases hm
  | low body front_eq lead few => exact within_after_low body front_eq lead few hm

end ClientAccess.Json
