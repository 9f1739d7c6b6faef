import Provisioning.Settings.Storage
import Provisioning.Proofs.Storage.FileTree
import Provisioning.Proofs.Text.Utf8
import Provisioning.Proofs.Settings.Document
import Provisioning.Proofs.Settings.Lookup
/-!
# Settings that are saved and loaded

* `FileSystem.weight_eq_of_names` : how a path is written does not change its weight;
* `HasSafeTexts` : settings whose texts are read back as they are;
* `SameAs` : settings that differ at most in how their paths are written;
* `ofBytes_toBytes_iff` : the settings of a saved file are those that were saved exactly if the
  texts of these are safe;
* `load_save` : so it is for files that are saved and loaded.
-/

namespace Provisioning

/-! ## Weights of paths -/

namespace FileSystem
open Text Ini

theorem flatten_extendHead (c : Char) (ws : List (List Char)) :
    (extendHead c ws).flatten = c :: ws.flatten := by
  cases ws <;> rfl

theorem weight_splitOn {sep : Char} (hsep : weight [sep] = 0) (s : List Char) :
    weight (splitOn sep s).flatten = weight s := by
  induction s with
  | nil => rfl
  | cons c s ih =>
    have hcons : ∀ s, weight (c :: s) = weight [c] + weight s := weight_append [c]
    rw [splitOn] at ih
    rw [splitOn, List.foldr_cons, hcons s, ← ih]
    split
    · rename_i h
      rw [h, hsep, Nat.zero_add, List.flatten_cons, List.nil_append]
    · rw [flatten_extendHead, hcons]

theorem weight_filter (ws : List (List Char)) :
    weight (ws.filter fun w => !w.isEmpty && w != ['.']).flatten = weight ws.flatten := by
  induction ws with
  | nil => rfl
  | cons w ws ih =>
    rw [List.filter_cons, List.flatten_cons, weight_append, ← ih]
    split
    · rw [List.flatten_cons, weight_append]
    · rename_i h
      have hw : w = [] ∨ w = ['.'] := by
        simpa [Classical.or_iff_not_imp_left] using h
      rcases hw with rfl | rfl <;> exact (Nat.zero_add _).symm

theorem weight_eq_of_names {p q : List Char} (h : names p = names q) : weight p = weight q := by
  have hnames : ∀ p, weight (names p).flatten = weight p := by
    intro p
    rw [← weight_splitOn (show weight ['/'] = 0 by decide) p, names]
    cases splitOn '/' p with
    | nil => rfl
    | cons n ns =>
      show weight (n :: _).flatten = weight (n :: ns).flatten
      rw [List.flatten_cons, List.flatten_cons, weight_append, weight_append, weight_filter]
  rw [← hnames p, ← hnames q, h]

end FileSystem

namespace Settings
open Ini

/-! ## Files -/

/-- Settings with texts that are read back as they are. -/
def HasSafeTexts (s : Settings) : Prop := ∀ e ∈ s.textValues, IsSafe e.2.toList

instance (s : Settings) : Decidable s.HasSafeTexts :=
  inferInstanceAs (Decidable (∀ e ∈ s.textValues, IsSafe e.2.toList))

/-- Settings that differ at most in how their paths are written. -/
structure SameAs (t s : Settings) : Prop where
  host : t.connection.host = s.connection.host
  port : t.connection.port = s.connection.port
  requesterId : t.connection.requesterId = s.connection.requesterId
  cert : t.connection.cert.map (FileSystem.names ·.toList) =
    s.connection.cert.map (FileSystem.names ·.toList)
  key : t.connection.key.map (FileSystem.names ·.toList) =
    s.connection.key.map (FileSystem.names ·.toList)
  acceptInvalidServerCerts :
    t.connection.acceptInvalidServerCerts = s.connection.acceptInvalidServerCerts
  timeoutSecs : t.connection.timeoutSecs = s.connection.timeoutSecs
  upload : t.upload = s.upload

theorem SameAs.refl (s : Settings) : s.SameAs s := ⟨rfl, rfl, rfl, rfl, rfl, rfl, rfl, rfl⟩

theorem ofBytes_toBytes (path : String) (s : Settings) :
    ofBytes path s.toBytes =
      (read? (write s.toDocument)).elim (.error (.read path .malformed)) ofDocument := by
  obtain ⟨-, r, hr⟩ :=
    Document.exists_write_eq (isPlain_toDocument s) (sections_toDocument_ne_nil s)
  have hmark : withoutMark s.toBytes = s.toBytes := by
    rw [toBytes, hr]
    rfl
  unfold ofBytes
  rw [hmark, toBytes, Utf8.decode?_encode]
  dsimp only
  rw [String.toList_ofList]
  cases read? (write s.toDocument) <;> rfl

/-- Safe texts are loaded as they were saved. -/
theorem ofBytes_toBytes_of_hasSafeTexts {path : String} {s : Settings} (h : s.HasSafeTexts) :
    ofBytes path s.toBytes = .ok s := by
  have hvalues : ∀ e, e ∈ connectionValues s.connection ∨ e ∈ uploadValues s.upload →
      IsSafe e.2.toList := by
    rintro e (he | he)
    · rcases connectionValues_cases he with hharm | htext
      · exact hharm.isSafe
      · exact h e htext
    · rcases uploadValues_cases he with hharm | htext
      · exact hharm.isSafe
      · exact h e htext
  have hread : read? (write s.toDocument) = some s.toDocument := by
    refine Document.read?_write_of_isSafe (isPlain_toDocument s) (sections_toDocument_ne_nil s) ?_
    intro t ht e he
    rcases mem_sections_toDocument ht with rfl | rfl
    · exact hvalues e (.inl he)
    · exact hvalues e (.inr he)
  rw [ofBytes_toBytes, hread]
  exact ofDocument_toDocument s

theorem entry_cases {s : Settings} {key value : List Char}
    (h : .entry key value ∈ s.toDocument.lines) :
    ∃ e : String × String, key = e.1.toList ∧ value = e.2.toList ∧
      (IsHarmless e.2.toList ∨ e ∈ s.textValues) := by
  obtain ⟨t, ht, e, he, hkey, hvalue⟩ := Document.entry_mem_lines.mp h
  refine ⟨e, hkey, hvalue, ?_⟩
  rcases mem_sections_toDocument ht with rfl | rfl
  · exact connectionValues_cases he
  · exact uploadValues_cases he

/-- A text that a default may stand in for. -/
theorem harmless_or_found {o : Option String} {v default : String} (h : v = o.getD default)
    (hdefault : IsHarmless default.toList) : IsHarmless v.toList ∨ o = some v := by
  cases o with
  | none => exact .inl (h ▸ hdefault)
  | some w => exact .inr (congrArg some h.symm)

/-- A text of settings that are the same as those of a document stands in it, in some writing. -/
theorem textValues_found {d : Document} {s t : Settings} (ht : ofDocument d = .ok t)
    (hsame : t.SameAs s) {e : String × String} (he : e ∈ s.textValues) :
    IsHarmless e.2.toList ∨ ∃ name value, d.get? name e.1 = some value ∧
      weight value.toList = weight e.2.toList := by
  obtain rfl := eq_found_of_ofDocument ht
  rcases List.mem_append.mp he with he | he
  · right
    rw [mem_given] at he
    obtain ⟨key, text⟩ := e
    simp only [List.mem_cons, Prod.mk.injEq, List.not_mem_nil, or_false] at he
    rcases he with ⟨rfl, hv⟩ | ⟨rfl, hv⟩ | ⟨rfl, hv⟩ | ⟨rfl, hv⟩
    · exact ⟨connectionSection, text, hsame.host.trans hv.symm, rfl⟩
    · exact ⟨connectionSection, text, hsame.requesterId.trans hv.symm, rfl⟩
    · have hnames := hsame.cert
      rw [← hv, Option.map_some] at hnames
      obtain ⟨v, hv', hsame'⟩ := Option.map_eq_some_iff.mp hnames
      exact ⟨connectionSection, v, hv', FileSystem.weight_eq_of_names hsame'⟩
    · have hnames := hsame.key
      rw [← hv, Option.map_some] at hnames
      obtain ⟨v, hv', hsame'⟩ := Option.map_eq_some_iff.mp hnames
      exact ⟨connectionSection, v, hv', FileSystem.weight_eq_of_names hsame'⟩
  · have hupload : ∀ {name key v default : String}, (d.get? name key).getD default = v →
        IsHarmless default.toList → IsHarmless v.toList ∨ ∃ name value,
          d.get? name key = some value ∧ weight value.toList = weight v.toList := by
      intro name key v default h hdefault
      rcases harmless_or_found h.symm hdefault with hharm | hfound
      · exact .inl hharm
      · exact .inr ⟨name, v, hfound, rfl⟩
    simp only [List.mem_cons, List.not_mem_nil, or_false] at he
    rcases he with rfl | rfl | rfl | rfl
    · exact hupload (congrArg (·.hostname) hsame.upload) (isHarmless_of_inert (by decide))
    · exact hupload (congrArg (·.hssVendor) hsame.upload) (isHarmless_of_inert (by decide))
    · exact hupload (congrArg (·.profileVendor) hsame.upload) (isHarmless_of_inert (by decide))
    · exact hupload (congrArg (·.initialHssState) hsame.upload) (isHarmless_of_inert (by decide))

/-- Texts that are not safe are not loaded, nor in another writing. -/
theorem hasSafeTexts_of_ofBytes {path : String} {s t : Settings}
    (h : ofBytes path s.toBytes = .ok t) (hsame : t.SameAs s) : s.HasSafeTexts := by
  rw [ofBytes_toBytes] at h
  cases hread : read? (write s.toDocument) with
  | none =>
    rw [hread] at h
    cases h
  | some d =>
    rw [hread] at h
    obtain ⟨ms, hreads, hfound⟩ := Document.reads_of_read?_write (isPlain_toDocument s)
      (sections_toDocument_ne_nil s) hread
    have hkept : Kept (· = sharedKey.toList) s.toDocument.lines ms := {
      keys := by
        rw [Document.keysOf_lines, List.pairwise_map]
        exact (keys_toDocument s).imp fun himp heq =>
          congrArg _ (himp (String.toList_injective heq))
      shared := by
        rintro key value hmem rfl
        obtain ⟨e, hk, rfl, hharm | htext⟩ := entry_cases hmem
        · exact hharm
        · exact absurd (String.toList_injective hk).symm (key_ne_of_mem_textValues htext)
      kept := by
        intro key value hmem
        obtain ⟨e, rfl, rfl, hharm | htext⟩ := entry_cases hmem
        · exact .inl hharm
        · rcases textValues_found h hsame htext with hharm | ⟨name, v, hget, hweight⟩
          · exact .inl hharm
          · exact .inr ⟨v.toList, hfound name e.1 v hget, hweight⟩ }
    intro e he
    obtain ⟨r, hr, her⟩ := exists_mem_sections (mem_values_of_mem_textValues he)
    exact hreads.isSafe hkept (Document.entry_mem_lines.mpr ⟨r, hr, e, her, rfl, rfl⟩)

theorem ofBytes_toBytes_iff (path : String) (s : Settings) :
    ofBytes path s.toBytes = .ok s ↔ s.HasSafeTexts :=
  ⟨fun h => hasSafeTexts_of_ofBytes h (SameAs.refl s), ofBytes_toBytes_of_hasSafeTexts⟩

theorem exists_sameAs_iff (path : String) (s : Settings) :
    (∃ t, ofBytes path s.toBytes = .ok t ∧ t.SameAs s) ↔ s.HasSafeTexts := by
  constructor
  · rintro ⟨t, ht, hsame⟩
    exact hasSafeTexts_of_ofBytes ht hsame
  · exact fun h => ⟨s, ofBytes_toBytes_of_hasSafeTexts h, SameAs.refl s⟩

/-! ## Saving and loading -/

variable {σ : Type} {fs : FileSystem (StateM σ)} {path : String} {s : Settings} {w w' : σ}

/-- The end of saving, once the directory is there or not. -/
def writeIf (fs : FileSystem (StateM σ)) (path : String) (s : Settings) (ready : Bool) :
    StateM σ (Except Fault Unit) := do
  if ready then
    if ← fs.write path s.toBytes then return .ok () else return .error (.write path)
  else
    return .error (.write path)

theorem write_of_writeIf {ready : Bool} (h : (writeIf fs path s ready).run w = (.ok (), w')) :
    (fs.write path s.toBytes).run w = (true, w') := by
  cases ready with
  | false => cases h
  | true =>
    rw [writeIf, if_pos rfl, StateT.run_bind] at h
    cases hwrite : (fs.write path s.toBytes).run w with
    | mk written w₁ =>
      rw [hwrite] at h
      cases written with
      | false => cases h
      | true =>
        cases h
        rfl

/-- Whether or not directories are made first, the file is written in some state. -/
theorem write_of_save (h : (save fs path s).run w = (.ok (), w')) :
    ∃ w₁, (fs.write path s.toBytes).run w₁ = (true, w') := by
  have hsave : ∃ ready w₁, (writeIf fs path s ready).run w₁ = (.ok (), w') := by
    unfold save at h
    dsimp only at h
    split at h
    · split at h
      · exact ⟨true, w, h⟩
      · exact ⟨_, _, h⟩
    · exact ⟨true, w, h⟩
  obtain ⟨ready, w₁, hwrite⟩ := hsave
  exact ⟨w₁, write_of_writeIf hwrite⟩

theorem run_load (hfs : fs.Stores path) {bytes : List UInt8}
    (h : (fs.write path bytes).run w = (true, w')) :
    ((load fs path).run w').1.1 = ofBytes path bytes := by
  obtain ⟨w₂, hcontains, hread⟩ := hfs bytes w w' h
  rw [load, StateT.run_bind, hcontains]
  cases hr : (fs.read path).run w₂ with
  | mk found w₃ =>
    rw [hr] at hread
    obtain rfl : found = some bytes := hread
    have hrun : ∀ f : Option (List UInt8) → StateM σ (Except Fault Settings × List Event),
        (fs.read path >>= f).run w₂ = (f (some bytes)).run w₃ := by
      intro f
      rw [StateT.run_bind, hr]
      rfl
    exact congrArg (·.1.1) (hrun _)

/-- Settings that are saved, in a file system that keeps what is written, and loaded again come back
exactly if their texts are safe; other texts do not come back in another writing either. -/
theorem load_save (hfs : fs.Stores path) (hsave : (save fs path s).run w = (.ok (), w')) :
    (((load fs path).run w').1.1 = .ok s ↔ s.HasSafeTexts) ∧
      ((∃ t, ((load fs path).run w').1.1 = .ok t ∧ t.SameAs s) ↔ s.HasSafeTexts) := by
  obtain ⟨w₁, hwrite⟩ := write_of_save hsave
  rw [run_load hfs hwrite]
  exact ⟨ofBytes_toBytes_iff path s, exists_sameAs_iff path s⟩

/-- The state of an empty directory in which settings were saved. -/
def saved (s : Settings) : FileTree := ⟨[(["config.ini"], .file s.toBytes)], []⟩

theorem run_save_saved (s : Settings) :
    (save FileTree.fileSystem "config.ini" s).run ⟨[], []⟩ = (.ok (), s.saved) := rfl

/-- Settings with backslashes, line ends, controls, signs of the document itself and letters that
are not ASCII. -/
def escapedSettings : Settings where
  connection := {
    host := some "smdp.m\u00fcnchen.example"
    port := some 8443
    requesterId := some "1.3.6\n[1]\t= 4"
    cert := some "C:\\es2\\#1.pem"
    key := some "/etc/es2/\u043a\u043b\u044e\u0447;.pem\\"
    acceptInvalidServerCerts := some true
    timeoutSecs := some 30 }
  upload := { hostname := "import\x00", profileVendor := "x\x07\r\n\"y\"" }

/-- The same, with a certificate whose path starts with a quote. -/
def quotedSettings : Settings :=
  { escapedSettings with
    connection := { escapedSettings.connection with cert := some "'es2' 1.pem" } }

/-- What needs escapes comes back, and a path that starts with a quote does not. -/
theorem load_save_escaped :
    ((save FileTree.fileSystem "config.ini" escapedSettings).run ⟨[], []⟩ =
        (.ok (), escapedSettings.saved) ∧
      ((load FileTree.fileSystem "config.ini").run escapedSettings.saved).1.1 =
        .ok escapedSettings) ∧
    ((save FileTree.fileSystem "config.ini" quotedSettings).run ⟨[], []⟩ =
        (.ok (), quotedSettings.saved) ∧
      ¬ ∃ t, ((load FileTree.fileSystem "config.ini").run quotedSettings.saved).1.1 = .ok t ∧
        t.SameAs quotedSettings) := by
  have hsafe : escapedSettings.HasSafeTexts := by decide +kernel
  have hquoted : ¬ quotedSettings.HasSafeTexts := by decide +kernel
  have hstores := FileTree.stores "config.ini"
  have hescaped := run_save_saved escapedSettings
  have hlost := run_save_saved quotedSettings
  exact ⟨⟨hescaped, (load_save hstores hescaped).1.mpr hsafe⟩,
    hlost, mt (load_save hstores hlost).2.mp hquoted⟩

end Settings

end Provisioning
