import Provisioning.Batch.Descriptor
import Provisioning.Proofs.Text.Blank
import Provisioning.Proofs.Batch.Luhn
/-!
# What the checks of the fields ask for

* `IsIccid`, `IsImsi`, `IsMsisdn`, `IsProfileType`, `IsHssState`, `IsWebUrl`, `IsQuantity` : the
  forms;
* `Check` : a label, a value and the form that the value shall have;
* `Check.Answers` : a result that is a value if the form is kept, and else a rejection that names
  the label and the value as written; each check of a field gives such a result (`accepts_iff`,
  `rejects_iff` for each direction);
* `quantity_eq_ok_iff` : the quantity that is given back.
-/

namespace Provisioning.Batch
open Text Decimal

/-! ## Forms -/

/-- 18 digits, or 19 digits of which the last is the check digit of the others. -/
def IsIccid (s : String) : Prop :=
  AllDigits s.toList ∧ (s.toList.length = 18 ∨
    ∃ p c, s.toList = p ++ [c] ∧ p.length = 18 ∧ Luhn.IsCheckDigit p c)

def IsImsi (s : String) : Prop := AllDigits s.toList ∧ s.toList.length = 15

def IsMsisdn (s : String) : Prop :=
  AllDigits s.toList ∧ 1 ≤ s.toList.length ∧ s.toList.length ≤ 15

/-- A capital letter, and behind it capital letters, digits and underscores. -/
def IsProfileType (s : String) : Prop :=
  ∃ c r, s.toList = c :: r ∧ c.isUpper = true ∧
    ∀ x ∈ r, x.isUpper = true ∨ x.isDigit = true ∨ x = '_'

def IsHssState (s : String) : Prop := s = "ACTIVATED" ∨ s = "NOT_ACTIVATED"

/-- An address of the web with a host. -/
def IsWebUrl (s : String) : Prop :=
  ∃ u, Url.parse s = .ok u ∧ u.host ≠ none ∧
    (u.scheme = "http".toList ∨ u.scheme = "https".toList)

/-- Between blanks, an optional plus sign and digits that spell `q`, from 1 up to what can be
counted. -/
def IsQuantity (s : String) (q : Nat) : Prop :=
  ∃ front number back, s.toList = front ++ number ++ back ∧ AllBlank front ∧ AllBlank back ∧
    IsUnsigned number q ∧ 1 ≤ q ∧ q < UInt64.size

/-- A label, the value that it stands for, and what is asked of the value. -/
structure Check where
  label : String
  value : String
  Holds : Prop

/-- A result as a check gives it. -/
structure Check.Answers {α : Type} (c : Check) (x : Except Rejection α) : Prop where
  accepts : c.Holds → ∃ a, x = .ok a
  rejects : ¬ c.Holds → ∃ expected, x = .error (.invalidFormat c.label c.value expected)

namespace Check.Answers

variable {α : Type} {c : Check} {x : Except Rejection α}

theorem accepts_iff (h : c.Answers x) : (∃ a, x = .ok a) ↔ c.Holds := by
  constructor
  · rintro ⟨a, rfl⟩
    by_contra hno
    obtain ⟨expected, herror⟩ := h.rejects hno
    cases herror
  · exact h.accepts

theorem rejects_iff (h : c.Answers x) : (∃ e, x = .error e) ↔ ¬ c.Holds := by
  constructor
  · rintro ⟨e, rfl⟩ hc
    obtain ⟨a, hok⟩ := h.accepts hc
    cases hok
  · intro hno
    obtain ⟨expected, herror⟩ := h.rejects hno
    exact ⟨_, herror⟩

end Check.Answers

namespace Field

/-! ## Checks of one condition -/

theorem answers_ite {c : Check} {t : Bool} {expected : String} (h : t = true ↔ c.Holds) :
    c.Answers (if t then .ok c.value else reject c.label c.value expected) := by
  constructor
  · intro hc
    rw [if_pos (h.mpr hc)]
    exact ⟨_, rfl⟩
  · intro hc
    rw [if_neg (fun ht => hc (h.mp ht))]
    exact ⟨_, rfl⟩

theorem utf8ByteSize_of_isDigits {s : String} (h : isDigits s.toList = true) :
    s.utf8ByteSize = s.toList.length := by
  rw [utf8ByteSize_of_allDigits (isDigits_iff.mp h).2, String.length_toList]

theorem answers_imsi (label raw : String) :
    Check.Answers ⟨label, raw, IsImsi raw⟩ (imsi label raw) := by
  refine answers_ite (c := ⟨label, raw, IsImsi raw⟩) ?_
  rw [Bool.and_eq_true, beq_iff_eq, imsiLength]
  constructor
  · rintro ⟨hd, hn⟩
    exact ⟨(isDigits_iff.mp hd).2, (utf8ByteSize_of_isDigits hd).symm.trans hn⟩
  · rintro ⟨hd, hn⟩
    have hdig : isDigits raw.toList = true :=
      isDigits_iff.mpr ⟨List.ne_nil_of_length_pos (by omega), hd⟩
    exact ⟨hdig, (utf8ByteSize_of_isDigits hdig).trans hn⟩

theorem answers_msisdn (label raw : String) :
    Check.Answers ⟨label, raw, IsMsisdn raw⟩ (msisdn label raw) := by
  refine answers_ite (c := ⟨label, raw, IsMsisdn raw⟩) ?_
  rw [Bool.and_eq_true, decide_eq_true_eq, msisdnMaxLength]
  constructor
  · rintro ⟨hd, hn⟩
    obtain ⟨hne, hall⟩ := isDigits_iff.mp hd
    exact ⟨hall, List.length_pos_iff.mpr hne, (utf8ByteSize_of_isDigits hd) ▸ hn⟩
  · rintro ⟨hd, h1, hn⟩
    have hdig : isDigits raw.toList = true :=
      isDigits_iff.mpr ⟨List.ne_nil_of_length_pos h1, hd⟩
    exact ⟨hdig, (utf8ByteSize_of_isDigits hdig).symm ▸ hn⟩

theorem imsi_of_isImsi {s : String} (h : IsImsi s) (label : String) : imsi label s = .ok s := by
  obtain ⟨a, ha⟩ := (answers_imsi label s).accepts h
  unfold imsi at ha ⊢
  split at ha
  · rename_i ht
    rw [if_pos ht]
  · cases ha

theorem msisdn_of_isMsisdn {s : String} (h : IsMsisdn s) (label : String) :
    msisdn label s = .ok s := by
  obtain ⟨a, ha⟩ := (answers_msisdn label s).accepts h
  unfold msisdn at ha ⊢
  split at ha
  · rename_i ht
    rw [if_pos ht]
  · cases ha

theorem answers_profileType (label value : String) :
    Check.Answers ⟨label, value, IsProfileType value⟩ (profileType label value) := by
  refine answers_ite (c := ⟨label, value, IsProfileType value⟩) ?_
  change isProfileType value.toList = true ↔ ∃ c r, value.toList = c :: r ∧ _
  cases value.toList with
  | nil => simp [isProfileType]
  | cons c r => simp [isProfileType, or_assoc]

theorem answers_hssState (label value : String) :
    Check.Answers ⟨label, value, IsHssState value⟩ (hssState label value) := by
  refine answers_ite (c := ⟨label, value, IsHssState value⟩) ?_
  change hssStates.contains value = true ↔ value = "ACTIVATED" ∨ value = "NOT_ACTIVATED"
  simp [hssStates]

/-! ## ICCIDs -/

theorem iccid_of_length {label raw : String} (hd : isDigits raw.toList = true)
    (hn : raw.toList.length = 18) : iccid label raw = .ok raw := by
  have hsize := utf8ByteSize_of_isDigits hd
  simp [iccid, hd, hsize, hn, Luhn.payloadLength]

/-- With 19 digits, the last one decides. -/
theorem iccid_append_singleton {label raw : String} {p : List Char} {c : Char}
    (hraw : raw.toList = p ++ [c]) (hd : AllDigits raw.toList) (hp : p.length = 18) :
    iccid label raw =
      if c = Nat.digitChar (Luhn.complement p) then .ok raw
      else reject label raw ("expected Luhn check digit " ++ (Luhn.complement p).repr) := by
  have hne : raw.toList ≠ [] := by rw [hraw]; simp
  have hdig : isDigits raw.toList = true := isDigits_iff.mpr ⟨hne, hd⟩
  have hn : raw.toList.length = 19 := by rw [hraw, List.length_append, hp]; rfl
  have hsize := utf8ByteSize_of_isDigits hdig
  have hpd : AllDigits p := fun x hx => hd x (by rw [hraw]; simp [hx])
  have hpay : Luhn.payload raw = String.ofList p := by
    rw [Luhn.payload_of_allDigits hd, hraw, Luhn.payloadLength, List.take_append_of_le_length
      (Nat.le_of_eq hp.symm), List.take_of_length_le (Nat.le_of_eq hp)]
  have hcheck : Luhn.checkDigit? (String.ofList p) = some (Luhn.complement p) := by
    have := Luhn.checkDigit?_eq (s := String.ofList p)
    simp only [String.toList_ofList] at this
    exact this (List.ne_nil_of_length_pos (by omega)) hpd
  have hlast : raw.toList.getLast? = some c := by rw [hraw, List.getLast?_concat]
  unfold iccid
  simp only [hdig, hsize, hn, Luhn.payloadLength, hpay, hcheck, hlast, Option.getD_some]
  by_cases hc : c = Nat.digitChar (Luhn.complement p)
  · simp [hc]
  · simp [hc]

theorem iccid_completed {p : List Char} (hd : AllDigits p) (hp : p.length = 18) (label : String) :
    iccid label (String.ofList (Luhn.completed p)) = .ok (String.ofList (Luhn.completed p)) := by
  have hlist : (String.ofList (Luhn.completed p)).toList =
      p ++ [Nat.digitChar (Luhn.complement p)] := String.toList_ofList
  have hall : AllDigits (String.ofList (Luhn.completed p)).toList := by
    rw [hlist]
    exact Luhn.allDigits_completed hd
  rw [iccid_append_singleton hlist hall hp, if_pos rfl]

theorem iccid_of_not {label raw : String}
    (h : ¬ (isDigits raw.toList = true ∧ (raw.toList.length = 18 ∨ raw.toList.length = 19))) :
    ∃ expected, iccid label raw = .error (.invalidFormat label raw expected) := by
  have hcond : (isDigits raw.toList && (raw.utf8ByteSize == Luhn.payloadLength ||
      raw.utf8ByteSize == Luhn.payloadLength + 1)) = false := by
    rw [← Bool.not_eq_true]
    intro hc
    simp only [Bool.and_eq_true, Bool.or_eq_true, beq_iff_eq, Luhn.payloadLength] at hc
    obtain ⟨hd, hn⟩ := hc
    rw [utf8ByteSize_of_isDigits hd] at hn
    exact h ⟨hd, hn⟩
  refine ⟨"ICCID must be 18 digits, or 19 digits including a Luhn check digit", ?_⟩
  unfold iccid
  rw [if_neg (by rw [hcond]; decide)]
  rfl

theorem answers_iccid (label raw : String) :
    Check.Answers ⟨label, raw, IsIccid raw⟩ (iccid label raw) := by
  constructor
  · rintro ⟨hd, hn | ⟨p, c, hraw, hp, hc⟩⟩
    · have hne : raw.toList ≠ [] := List.ne_nil_of_length_pos (by omega)
      exact ⟨raw, iccid_of_length (isDigits_iff.mpr ⟨hne, hd⟩) hn⟩
    · have hpd : AllDigits p := fun x hx => hd x (by rw [hraw]; simp [hx])
      rw [iccid_append_singleton hraw hd hp, if_pos ((Luhn.isCheckDigit_iff hpd).mp hc)]
      exact ⟨raw, rfl⟩
  · intro hno
    by_cases h : isDigits raw.toList = true ∧ (raw.toList.length = 18 ∨ raw.toList.length = 19)
    · obtain ⟨hdig, hn | hn⟩ := h
      · exact absurd ⟨(isDigits_iff.mp hdig).2, Or.inl hn⟩ hno
      · have hd := (isDigits_iff.mp hdig).2
        obtain ⟨p, c, hraw⟩ : ∃ p c, raw.toList = p ++ [c] :=
          ⟨_, _, (List.dropLast_concat_getLast (isDigits_iff.mp hdig).1).symm⟩
        have hp : p.length = 18 := by
          rw [hraw, List.length_append, List.length_singleton] at hn
          omega
        have hpd : AllDigits p := fun x hx => hd x (by rw [hraw]; simp [hx])
        rw [iccid_append_singleton hraw hd hp, if_neg]
        · exact ⟨_, rfl⟩
        · intro hc
          exact hno ⟨hd, Or.inr ⟨p, c, hraw, hp, (Luhn.isCheckDigit_iff hpd).mpr hc⟩⟩
    · exact iccid_of_not h

theorem iccid_accepts_iff (label raw : String) : (∃ a, iccid label raw = .ok a) ↔ IsIccid raw :=
  (answers_iccid label raw).accepts_iff

theorem iccid_rejects_iff (label raw : String) :
    (∃ e, iccid label raw = .error e) ↔ ¬ IsIccid raw := (answers_iccid label raw).rejects_iff

/-! ## Addresses -/

theorem isWeb_iff (u : Url) :
    isWeb u = true ↔ u.host ≠ none ∧ (u.scheme = "http".toList ∨ u.scheme = "https".toList) := by
  simp [isWeb, Option.isSome_iff_ne_none]

theorem answers_url (label value : String) :
    Check.Answers ⟨label, value, IsWebUrl value⟩ (url label value) := by
  unfold url
  constructor
  · rintro ⟨u, hu, hweb⟩
    rw [hu]
    exact ⟨u, if_pos ((isWeb_iff u).mpr hweb)⟩
  · intro hno
    cases hu : Url.parse value with
    | error e => exact ⟨_, rfl⟩
    | ok u => exact ⟨_, if_neg (fun hweb => hno ⟨u, hu, (isWeb_iff u).mp hweb⟩)⟩

/-! ## Quantities -/

theorem isBlank_of_isDigit {c : Char} (h : c.isDigit = true) : isBlank c = false := by
  obtain ⟨h48, h57⟩ := digit_bounds h
  simp only [isBlank]
  simp
  omega

theorem isBlank_of_mem_unsigned {s : List Char} {n : Nat} (h : IsUnsigned s n) {c : Char}
    (hc : c ∈ s) : isBlank c = false := by
  obtain ⟨sign, digits, rfl, hsign, -, hd, -⟩ := h
  rcases List.mem_append.mp hc with hc | hc
  · rcases hsign with rfl | rfl
    · cases hc
    · rw [List.mem_singleton.mp hc]
      decide
  · exact isBlank_of_isDigit (hd c hc)

theorem unsigned?_trim_eq_some_iff {raw : String} {q : Nat} (hq : 1 ≤ q) :
    unsigned? countLimit (trim raw.toList) = some q ↔ IsQuantity raw q := by
  rw [unsigned?_eq_some_iff]
  constructor
  · rintro ⟨hnum, hlt⟩
    obtain ⟨front, back, hraw, hf, hb⟩ := exists_trim raw.toList
    exact ⟨front, _, back, hraw, hf, hb, hnum, hq, hlt⟩
  · rintro ⟨front, number, back, hraw, hf, hb, hnum, -, hlt⟩
    have hstart : StartsPlain number :=
      fun c hc => isBlank_of_mem_unsigned hnum (List.mem_of_mem_head? hc)
    have hend : EndsPlain number :=
      fun c hc => isBlank_of_mem_unsigned hnum (List.mem_of_getLast? hc)
    rw [hraw, trim_append hf hb hstart hend]
    exact ⟨hnum, hlt⟩

theorem quantity_eq_ok_iff (label : String) {raw : String} {q : Nat} :
    quantity label raw = .ok q ↔ IsQuantity raw q := by
  unfold quantity
  constructor
  · intro h
    split at h
    · rename_i n hn
      cases h
      exact (unsigned?_trim_eq_some_iff (Nat.le_add_left 1 n)).mp hn
    · cases h
  · intro h
    obtain ⟨-, -, -, -, -, -, -, h1, -⟩ := id h
    rw [(unsigned?_trim_eq_some_iff h1).mpr h]
    obtain ⟨n, rfl⟩ := Nat.exists_eq_add_of_le' h1
    rfl

theorem isQuantity_unique {raw : String} {q q' : Nat} (h : IsQuantity raw q)
    (h' : IsQuantity raw q') : q = q' := by
  have hok := (quantity_eq_ok_iff "").mpr h
  rw [(quantity_eq_ok_iff "").mpr h'] at hok
  injection hok with hq
  exact hq.symm

theorem answers_quantity (label raw : String) :
    Check.Answers ⟨label, raw, ∃ q, IsQuantity raw q⟩ (quantity label raw) := by
  constructor
  · rintro ⟨q, hq⟩
    exact ⟨q, (quantity_eq_ok_iff label).mpr hq⟩
  · intro hno
    cases hx : quantity label raw with
    | ok q => exact absurd ⟨q, (quantity_eq_ok_iff label).mp hx⟩ hno
    | error e =>
      unfold quantity at hx
      split at hx
      · cases hx
      · injection hx with he
        exact ⟨_, congrArg _ he.symm⟩

end Field

end Provisioning.Batch
