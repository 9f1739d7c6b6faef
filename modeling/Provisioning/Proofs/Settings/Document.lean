import Provisioning.Settings.Document
import Provisioning.Storage.FileSystem
import Provisioning.Proofs.Text.Decimal
import Provisioning.Proofs.Ini.Document
/-!
# The document of settings

* `Settings.textValues` : the texts among settings, with their keys;
* `connectionValues_cases`, `uploadValues_cases` : every other value is harmless;
* `ofDocument_toDocument` : settings are the settings of their document.
-/

namespace Provisioning.Settings
open Text Ini

/-! ## Harmless values -/

theorem isHarmless_of_inert {s : List Char} (h : s.all isInert = true) : IsHarmless s := by
  have hinert : ∀ c ∈ s, Inert c := fun c hc => inert_of_isInert (List.all_eq_true.mp h c hc)
  exact {
    isSafe := {
      startsPlain := fun _ hc => (hinert _ (List.mem_of_mem_head? hc)).blank
      endsPlain := fun _ hc => (hinert _ (List.mem_of_getLast? hc)).blank
      not_startsQuoted := fun ⟨q, hhead, hq⟩ => by
        rw [(hinert q (List.mem_of_mem_head? hhead)).quote] at hq
        cases hq
      no_tab := fun hmem => absurd (hinert _ hmem).blank (by decide)
      no_feed := fun hmem => absurd (hinert _ hmem).blank (by decide) }
    no_quote := fun c hc => (hinert c hc).quote }

theorem isInert_of_isDigit {c : Char} (h : c.isDigit = true) : isInert c = true := by
  obtain ⟨hlow, hhigh⟩ := Decimal.digit_bounds h
  have hall : ∀ n < 58, 48 ≤ n → isInert (Char.ofNat n) = true := by decide
  have hc := hall c.toNat (by omega) hlow
  rwa [Char.ofNat_toNat] at hc

theorem isHarmless_repr (n : Nat) : IsHarmless n.repr.toList := by
  refine isHarmless_of_inert (List.all_eq_true.mpr fun c hc => ?_)
  rw [Decimal.toList_repr] at hc
  exact isInert_of_isDigit (Decimal.allDigits_render n c hc)

theorem isHarmless_flagText (b : Bool) : IsHarmless (flagText b).toList := by
  cases b <;> exact isHarmless_of_inert (by decide)

/-! ## Values that are given -/

def given (l : List (String × Option String)) : List (String × String) :=
  l.filterMap fun (key, value) => value.map fun v => (key, v)

theorem mem_given {l : List (String × Option String)} {e : String × String} :
    e ∈ given l ↔ (e.1, some e.2) ∈ l := by
  rw [given, List.mem_filterMap]
  constructor
  · rintro ⟨⟨key, value⟩, hmem, hvalue⟩
    obtain ⟨v, rfl, rfl⟩ := Option.map_eq_some_iff.mp hvalue
    exact hmem
  · exact fun hmem => ⟨_, hmem, rfl⟩

theorem keys_given_sublist (l : List (String × Option String)) :
    ((given l).map (·.1)).Sublist (l.map (·.1)) := by
  induction l with
  | nil => exact .slnil
  | cons e l ih =>
    obtain ⟨key, value⟩ := e
    cases value with
    | none => exact ih.cons key
    | some v => exact ih.cons_cons key

/-- Where no key stands twice, what is found is what was given. -/
theorem get?_given {l : List (String × Option String)} (h : (l.map (·.1)).Nodup)
    (name : Option String) (key : String) :
    (⟨name, given l⟩ : Section).get? key = (l.find? (·.1 == key)).bind (·.2) := by
  induction l with
  | nil => rfl
  | cons e l ih =>
    obtain ⟨k, value⟩ := e
    obtain ⟨hk, hl⟩ := List.nodup_cons.mp h
    have ih := ih hl
    rw [List.find?_cons]
    cases hkey : k == key with
    | true =>
      obtain rfl := beq_iff_eq.mp hkey
      cases value with
      | none =>
        have hnone : l.find? (·.1 == k) = none := List.find?_eq_none.mpr fun e he heq =>
          hk (List.mem_map.mpr ⟨e, he, beq_iff_eq.mp heq⟩)
        rw [hnone] at ih
        exact ih
      | some v =>
        simp only [Section.get?, given, List.filterMap_cons, Option.map_some, List.find?_cons, hkey,
          Option.bind_some]
    | false =>
      cases value with
      | none => exact ih
      | some v =>
        rw [← ih]
        simp only [Section.get?, given, List.filterMap_cons, Option.map_some, List.find?_cons, hkey]

/-! ## What is written -/

def connectionOptions (c : ConnectionSettings) : List (String × Option String) :=
  [("host", c.host), ("port", c.port.map fun p => p.toNat.repr), ("requester_id", c.requesterId),
    ("cert", c.cert), ("key", c.key),
    ("accept_invalid_server_certs", c.acceptInvalidServerCerts.map flagText),
    ("timeout_secs", c.timeoutSecs.map fun n => n.toNat.repr)]

theorem connectionValues_eq (c : ConnectionSettings) :
    connectionValues c = given (connectionOptions c) := rfl

def connectionKeys : List String :=
  ["host", "port", "requester_id", "cert", "key", "accept_invalid_server_certs", "timeout_secs"]

theorem keys_connectionOptions (c : ConnectionSettings) :
    (connectionOptions c).map (·.1) = connectionKeys := rfl

def uploadKeys : List String :=
  ["hostname", "port", "hss_vendor", "profile_vendor", "initial_hss_state"]

theorem keys_uploadValues (u : UploadSettings) : (uploadValues u).map (·.1) = uploadKeys := rfl

theorem isWord_key {key : String} (h : key ∈ connectionKeys ++ uploadKeys) : IsWord key.toList := by
  revert key
  decide

def textValues (s : Settings) : List (String × String) :=
  given [("host", s.connection.host), ("requester_id", s.connection.requesterId),
    ("cert", s.connection.cert), ("key", s.connection.key)] ++
  [("hostname", s.upload.hostname), ("hss_vendor", s.upload.hssVendor),
    ("profile_vendor", s.upload.profileVendor), ("initial_hss_state", s.upload.initialHssState)]

/-- A value that is written is harmless or a text. -/
theorem connectionValues_cases {s : Settings} {e : String × String}
    (h : e ∈ connectionValues s.connection) : IsHarmless e.2.toList ∨ e ∈ s.textValues := by
  rw [connectionValues_eq, mem_given] at h
  have htext : ∀ {key : String}, (key, some e.2) ∈ [("host", s.connection.host),
      ("requester_id", s.connection.requesterId), ("cert", s.connection.cert),
      ("key", s.connection.key)] → e.1 = key → e ∈ s.textValues := by
    rintro key hmem rfl
    exact List.mem_append_left _ (mem_given.mpr hmem)
  simp only [connectionOptions, List.mem_cons, Prod.mk.injEq, List.not_mem_nil, or_false] at h
  rcases h with ⟨hk, hv⟩ | ⟨-, hv⟩ | ⟨hk, hv⟩ | ⟨hk, hv⟩ | ⟨hk, hv⟩ | ⟨-, hv⟩ | ⟨-, hv⟩
  · exact .inr (htext (by rw [hv]; simp) hk)
  · obtain ⟨p, -, hp⟩ := Option.map_eq_some_iff.mp hv.symm
    exact .inl (hp ▸ isHarmless_repr _)
  · exact .inr (htext (by rw [hv]; simp) hk)
  · exact .inr (htext (by rw [hv]; simp) hk)
  · exact .inr (htext (by rw [hv]; simp) hk)
  · obtain ⟨b, -, hb⟩ := Option.map_eq_some_iff.mp hv.symm
    exact .inl (hb ▸ isHarmless_flagText _)
  · obtain ⟨n, -, hn⟩ := Option.map_eq_some_iff.mp hv.symm
    exact .inl (hn ▸ isHarmless_repr _)

theorem uploadValues_cases {s : Settings} {e : String × String}
    (h : e ∈ uploadValues s.upload) : IsHarmless e.2.toList ∨ e ∈ s.textValues := by
  simp only [uploadValues, List.mem_cons, List.not_mem_nil, or_false] at h
  rcases h with rfl | rfl | rfl | rfl | rfl
  · exact .inr (List.mem_append_right _ (by simp))
  · exact .inl (isHarmless_repr _)
  · exact .inr (List.mem_append_right _ (by simp))
  · exact .inr (List.mem_append_right _ (by simp))
  · exact .inr (List.mem_append_right _ (by simp))

theorem mem_values_of_mem_textValues {s : Settings} {e : String × String}
    (h : e ∈ s.textValues) : e ∈ connectionValues s.connection ∨ e ∈ uploadValues s.upload := by
  rcases List.mem_append.mp h with h | h
  · left
    rw [mem_given] at h
    rw [connectionValues_eq, mem_given]
    revert h
    simp only [connectionOptions, List.mem_cons, List.not_mem_nil, or_false]
    tauto
  · right
    revert h
    simp only [uploadValues, List.mem_cons, List.not_mem_nil, or_false]
    tauto

theorem isEmpty_connectionValues {c : ConnectionSettings}
    (h : (connectionValues c).isEmpty = true) : c = {} := by
  have hnone : ∀ e ∈ connectionOptions c, e.2 = none := by
    intro e he
    cases hv : e.2 with
    | none => rfl
    | some v =>
      have hmem : (e.1, v) ∈ connectionValues c := mem_given.mpr (by rw [← hv]; exact he)
      rw [List.isEmpty_iff.mp h] at hmem
      cases hmem
  simp only [connectionOptions, List.mem_cons, List.not_mem_nil, or_false, forall_eq_or_imp,
    forall_eq, Option.map_eq_none_iff] at hnone
  obtain ⟨h₁, h₂, h₃, h₄, h₅, h₆, h₇⟩ := hnone
  obtain ⟨host, port, requesterId, cert, key, accept, timeout⟩ := c
  simp only at h₁ h₂ h₃ h₄ h₅ h₆ h₇
  subst h₁ h₂ h₃ h₄ h₅ h₆ h₇
  rfl

/-! ## The document of settings -/

theorem mem_sections_toDocument {s : Settings} {t : Section} (h : t ∈ s.toDocument.sections) :
    t = ⟨some connectionSection, connectionValues s.connection⟩ ∨
      t = ⟨some uploadSection, uploadValues s.upload⟩ := by
  unfold toDocument at h
  dsimp only at h
  split at h
  · exact .inr (List.mem_singleton.mp h)
  · rcases List.mem_cons.mp h with h | h
    · exact .inl h
    · exact .inr (List.mem_singleton.mp h)

theorem exists_mem_sections {s : Settings} {e : String × String}
    (h : e ∈ connectionValues s.connection ∨ e ∈ uploadValues s.upload) :
    ∃ t ∈ s.toDocument.sections, e ∈ t.values := by
  unfold toDocument
  dsimp only
  split
  · rename_i hempty
    rw [List.isEmpty_iff.mp hempty] at h
    exact ⟨_, List.mem_singleton.mpr rfl, h.resolve_left List.not_mem_nil⟩
  · rcases h with h | h
    · exact ⟨_, List.mem_cons_self, h⟩
    · exact ⟨_, List.mem_cons_of_mem _ (List.mem_singleton.mpr rfl), h⟩

theorem sections_toDocument_ne_nil (s : Settings) : s.toDocument.sections ≠ [] := by
  unfold toDocument
  dsimp only
  split <;> exact List.cons_ne_nil _ _

theorem keys_connectionValues_sublist (c : ConnectionSettings) :
    ((connectionValues c).map (·.1)).Sublist connectionKeys :=
  keys_connectionOptions c ▸ keys_given_sublist (connectionOptions c)

theorem isPlain_toDocument (s : Settings) : s.toDocument.IsPlain := by
  intro t ht
  rcases mem_sections_toDocument ht with rfl | rfl
  · refine ⟨connectionSection, rfl, by decide, fun e he => isWord_key ?_⟩
    exact List.mem_append_left _
      ((keys_connectionValues_sublist s.connection).subset (List.mem_map_of_mem he))
  · refine ⟨uploadSection, rfl, by decide, fun e he => isWord_key ?_⟩
    rw [← keys_uploadValues s.upload]
    exact List.mem_append_right _ (List.mem_map_of_mem he)

/-- The key that both sections have. -/
def sharedKey : String := "port"

theorem key_ne_of_mem_textValues {s : Settings} {e : String × String} (h : e ∈ s.textValues) :
    e.1 ≠ sharedKey := by
  have hall : ∀ key ∈ ["host", "requester_id", "cert", "key", "hostname", "hss_vendor",
      "profile_vendor", "initial_hss_state"], key ≠ sharedKey := by decide
  refine hall e.1 ?_
  have hkey := List.mem_map_of_mem (f := (·.1)) h
  rw [textValues, List.map_append] at hkey
  exact ((keys_given_sublist _).append (List.Sublist.refl _)).subset hkey

theorem keys_toDocument (s : Settings) :
    s.toDocument.keys.Pairwise fun key key' => key = key' → key = sharedKey := by
  have hall : (connectionKeys ++ uploadKeys).Pairwise
      fun key key' => key = key' → key = sharedKey := by decide
  refine hall.sublist ?_
  unfold toDocument Document.keys
  dsimp only
  split
  · rw [List.flatMap_singleton, keys_uploadValues]
    exact List.sublist_append_right _ _
  · rw [List.flatMap_cons, List.flatMap_singleton, keys_uploadValues]
    exact (keys_connectionValues_sublist s.connection).append (List.Sublist.refl _)

/-! ## Reading what was written -/

section

variable {α : Type} {read : List Char → Option α} {write : α → String} {t : Section}
  {sectionName key : String} {o : Option α}

theorem parsed_of_get? (hread : ∀ a, read (trim (write a).toList) = some a)
    (hget : t.get? key = o.map write) : parsed read t sectionName key = .ok o := by
  cases o with
  | none => rw [parsed, hget]; rfl
  | some a =>
    rw [parsed, hget, Option.map_some]
    dsimp only
    rw [hread a]

end

theorem trim_of_isHarmless {s : List Char} (h : IsHarmless s) : trim s = s :=
  trim_eq_self h.isSafe.startsPlain h.isSafe.endsPlain

theorem unsigned?_trim_repr {limit n : Nat} (h : n < limit) :
    Decimal.unsigned? limit (trim n.repr.toList) = some n := by
  have hvalue := Decimal.value_render n
  rw [trim_of_isHarmless (isHarmless_repr n), Decimal.toList_repr,
    Decimal.unsigned?_of_allDigits (Decimal.render_ne_nil n) (Decimal.allDigits_render n)
      (by rw [hvalue]; exact h), hvalue]

theorem port?_repr (p : UInt16) : port? (trim p.toNat.repr.toList) = some p := by
  have hlt : p.toNat < Decimal.portLimit := p.toNat_lt
  rw [port?, unsigned?_trim_repr hlt, Option.map_some, UInt16.ofNat_toNat]

theorem count?_repr (n : UInt64) : count? (trim n.toNat.repr.toList) = some n := by
  have hlt : n.toNat < Decimal.countLimit := n.toNat_lt
  rw [count?, unsigned?_trim_repr hlt, Option.map_some, UInt64.ofNat_toNat]

theorem flag?_flagText (b : Bool) : flag? (trim (flagText b).toList) = some b := by
  cases b <;> decide

theorem connectionOf_values (c : ConnectionSettings) (name : Option String) :
    connectionOf ⟨name, connectionValues c⟩ = .ok c := by
  have hkeys : ((connectionOptions c).map (·.1)).Nodup := by
    rw [keys_connectionOptions]
    decide
  have hget : ∀ key, (⟨name, connectionValues c⟩ : Section).get? key =
      ((connectionOptions c).find? (·.1 == key)).bind (·.2) := get?_given hkeys name
  have hport : parsed port? ⟨name, connectionValues c⟩ connectionSection "port" = .ok c.port :=
    parsed_of_get? port?_repr (hget "port")
  have haccept : parsed flag? ⟨name, connectionValues c⟩ connectionSection
      "accept_invalid_server_certs" = .ok c.acceptInvalidServerCerts :=
    parsed_of_get? flag?_flagText (hget "accept_invalid_server_certs")
  have htimeout : parsed count? ⟨name, connectionValues c⟩ connectionSection "timeout_secs" =
      .ok c.timeoutSecs :=
    parsed_of_get? count?_repr (hget "timeout_secs")
  rw [connectionOf, hport, haccept, htimeout, hget, hget, hget, hget]
  rfl

theorem uploadOf_values (u : UploadSettings) (name : Option String) :
    uploadOf ⟨name, uploadValues u⟩ = .ok u := by
  have hport : parsed port? ⟨name, uploadValues u⟩ uploadSection "port" = .ok (some u.port) :=
    parsed_of_get? port?_repr (o := some u.port) rfl
  rw [uploadOf, hport]
  rfl

/-- Settings are the settings of their document. -/
theorem ofDocument_toDocument (s : Settings) : ofDocument s.toDocument = .ok s := by
  have hupload := uploadOf_values s.upload (some uploadSection)
  unfold toDocument
  dsimp only
  split
  · rename_i hempty
    have hnone : Ini.Document.section? ⟨[⟨some uploadSection, uploadValues s.upload⟩]⟩
        connectionSection = none := rfl
    have hsome : Ini.Document.section? ⟨[⟨some uploadSection, uploadValues s.upload⟩]⟩
        uploadSection = some ⟨some uploadSection, uploadValues s.upload⟩ := rfl
    rw [ofDocument, hnone, hsome, ofSection, ofSection, hupload, ← isEmpty_connectionValues hempty]
    rfl
  · have hconnection := connectionOf_values s.connection (some connectionSection)
    have hfirst : Ini.Document.section?
        ⟨[⟨some connectionSection, connectionValues s.connection⟩,
          ⟨some uploadSection, uploadValues s.upload⟩]⟩ connectionSection =
        some ⟨some connectionSection, connectionValues s.connection⟩ := rfl
    have hsecond : Ini.Document.section?
        ⟨[⟨some connectionSection, connectionValues s.connection⟩,
          ⟨some uploadSection, uploadValues s.upload⟩]⟩ uploadSection =
        some ⟨some uploadSection, uploadValues s.upload⟩ := rfl
    rw [ofDocument, hfirst, hsecond, ofSection, ofSection, hconnection, hupload]
    rfl

end Provisioning.Settings
