import Mathlib.Data.List.Basic
import Provisioning.Settings.Document
import Provisioning.Proofs.Ini.Layout
/-!
# What settings depend on

* `Known` : a key of a section, how its values are read, and the setting that it gives;
* `Known.fault?` : why the value of a key cannot be read;
* `Known.Holds` : a setting is what was found, or its default;
* `known`, `parsedKeys` : all keys in the order in which their values are read, and those of them
  whose values can have a fault;
* `found` : the settings of a document without faults; `settled` : these, or else the first fault;
* `sectionOf` : a section that is missing is as good as an empty one;
* `ofDocument_eq` : so settings are read key by key;
* `ofDocument_eq_error_iff`, `ofDocument_eq_ok_iff` : the fault that is reported, and the settings
  that hold;
* `ofDocument_lookup` : the layout of a document does not count.
-/

namespace Provisioning.Settings
open Text Ini

/-! ## Known keys -/

/-- A key in a section. `read` gives what a value says, and `setting` is where that goes. -/
structure Known where
  sectionName : String
  key : String
  {Value : Type}
  read : String → Option Value
  setting : Settings → Value

namespace Known

variable {k : Known} {d : Document} {s : Settings}

/-- What a document has for a key. -/
def look (k : Known) (d : Document) : Option String := d.get? k.sectionName k.key

/-- A value that says nothing is reported as it stands there. -/
def fault? (k : Known) (d : Document) : Option Fault :=
  (k.look d).bind fun raw =>
    if (k.read raw).isSome then none else some (.invalidValue k.sectionName k.key raw)

def value (k : Known) (d : Document) : k.Value :=
  ((k.look d).bind k.read).getD (k.setting {})

/-- The setting is what was found, and the default where nothing was. -/
def Holds (k : Known) (d : Document) (s : Settings) : Prop :=
  match k.look d with
  | some raw => k.read raw = some (k.setting s)
  | none => k.setting s = k.setting {}

theorem holds_iff : k.Holds d s ↔ k.fault? d = none ∧ k.setting s = k.value d := by
  unfold Holds fault? value
  cases k.look d with
  | none => exact ⟨fun h => ⟨rfl, h⟩, And.right⟩
  | some raw =>
    dsimp only
    rw [Option.bind_some, Option.bind_some]
    cases k.read raw with
    | none => exact iff_of_false (Option.some_ne_none _).symm fun h => Option.some_ne_none _ h.1
    | some v => exact ⟨fun h => ⟨rfl, (Option.some.inj h).symm⟩, fun h => congrArg some h.2.symm⟩

end Known

/-- A number or a flag may have blanks around it. -/
def trimmed {α : Type} (read : List Char → Option α) (raw : String) : Option α :=
  read (trim raw.toList)

/-- What a value says, for a setting that can be missing. -/
def given? {α : Type} (read : String → Option α) (raw : String) : Option (Option α) :=
  (read raw).map some

def connectionPort : Known :=
  ⟨connectionSection, "port", given? (trimmed port?), (·.connection.port)⟩

def acceptance : Known :=
  ⟨connectionSection, "accept_invalid_server_certs", given? (trimmed flag?),
    (·.connection.acceptInvalidServerCerts)⟩

def timeout : Known :=
  ⟨connectionSection, "timeout_secs", given? (trimmed count?), (·.connection.timeoutSecs)⟩

def uploadPort : Known := ⟨uploadSection, "port", trimmed port?, (·.upload.port)⟩

def knownConnection : List Known := [
  ⟨connectionSection, "host", given? some, (·.connection.host)⟩,
  connectionPort,
  ⟨connectionSection, "requester_id", given? some, (·.connection.requesterId)⟩,
  ⟨connectionSection, "cert", given? some, (·.connection.cert)⟩,
  ⟨connectionSection, "key", given? some, (·.connection.key)⟩,
  acceptance,
  timeout]

def knownUpload : List Known := [
  ⟨uploadSection, "hostname", some, (·.upload.hostname)⟩,
  uploadPort,
  ⟨uploadSection, "hss_vendor", some, (·.upload.hssVendor)⟩,
  ⟨uploadSection, "profile_vendor", some, (·.upload.profileVendor)⟩,
  ⟨uploadSection, "initial_hss_state", some, (·.upload.initialHssState)⟩]

/-- All keys. Their order is the one in which values are read, whatever the order of a document. -/
def known : List Known := knownConnection ++ knownUpload

def knownNames : List (String × String) := known.map fun k => (k.sectionName, k.key)

/-- The keys of numbers and flags. All other values are texts, which say something in any case. -/
def parsedKeys : List Known := [connectionPort, acceptance, timeout, uploadPort]

/-! ## The settings that are found -/

/-- The settings of a document in which no value has a fault. -/
def found (d : Document) : Settings where
  connection := {
    host := d.get? connectionSection "host"
    port := (d.get? connectionSection "port").bind (trimmed port?)
    requesterId := d.get? connectionSection "requester_id"
    cert := d.get? connectionSection "cert"
    key := d.get? connectionSection "key"
    acceptInvalidServerCerts :=
      (d.get? connectionSection "accept_invalid_server_certs").bind (trimmed flag?)
    timeoutSecs := (d.get? connectionSection "timeout_secs").bind (trimmed count?) }
  upload := {
    hostname := (d.get? uploadSection "hostname").getD Batch.defaultUploadHostname
    port := ((d.get? uploadSection "port").bind (trimmed port?)).getD Batch.defaultUploadPort
    hssVendor := (d.get? uploadSection "hss_vendor").getD Batch.defaultHssVendor
    profileVendor := (d.get? uploadSection "profile_vendor").getD Batch.defaultProfileVendor
    initialHssState :=
      (d.get? uploadSection "initial_hss_state").getD Batch.defaultInitialHssState }

theorem getD_bind_given? {α : Type} (read : String → Option α) (o : Option String) :
    (o.bind (given? read)).getD none = o.bind read := by
  cases o with
  | none => rfl
  | some raw =>
    rw [Option.bind_some, Option.bind_some, given?]
    cases read raw <;> rfl

theorem setting_found (d : Document) : ∀ k ∈ known, k.setting (found d) = k.value d := by
  simp only [known, knownConnection, knownUpload, List.cons_append, List.nil_append,
    List.forall_mem_cons, connectionPort, acceptance, timeout, uploadPort, Known.value, Known.look,
    found, getD_bind_given?, Option.bind_fun_some, List.not_mem_nil, false_implies, implies_true,
    and_self]

theorem eq_of_setting_eq {s s' : Settings} (h : ∀ k ∈ known, k.setting s = k.setting s') :
    s = s' := by
  simp only [known, knownConnection, knownUpload, List.cons_append, List.nil_append,
    List.forall_mem_cons, connectionPort, acceptance, timeout, uploadPort] at h
  obtain ⟨h₁, h₂, h₃, h₄, h₅, h₆, h₇, h₈, h₉, h₁₀, h₁₁, h₁₂, -⟩ := h
  obtain ⟨⟨_, _, _, _, _, _, _⟩, _, _, _, _, _⟩ := s
  obtain ⟨⟨_, _, _, _, _, _, _⟩, _, _, _, _, _⟩ := s'
  dsimp only at h₁ h₂ h₃ h₄ h₅ h₆ h₇ h₈ h₉ h₁₀ h₁₁ h₁₂
  rw [h₁, h₂, h₃, h₄, h₅, h₆, h₇, h₈, h₉, h₁₀, h₁₁, h₁₂]

/-! ## Reading -/

/-- A section that is missing is as good as an empty one. -/
def sectionOf (d : Document) (name : String) : Section := (d.section? name).getD ⟨none, []⟩

theorem get?_sectionOf (d : Document) (name key : String) :
    (sectionOf d name).get? key = d.get? name key := by
  unfold sectionOf Document.get?
  cases d.section? name <;> rfl

theorem ofSection_eq {α : Type} (read : Section → Except Fault α) {default : α}
    (hempty : read ⟨none, []⟩ = .ok default) (d : Document) (name : String) :
    ofSection read default (d.section? name) = read (sectionOf d name) := by
  unfold sectionOf
  cases d.section? name with
  | none => exact hempty.symm
  | some t => rfl

section Faults

variable {k : Known} {d : Document} {α : Type} {read : List Char → Option α}

theorem fault?_eq_none (hread : ∀ raw, (k.read raw).isSome = true) : k.fault? d = none := by
  unfold Known.fault?
  cases k.look d with
  | none => rfl
  | some raw => exact if_pos (hread raw)

theorem fault?_given_text (d : Document) (name key : String) (setting : Settings → Option String) :
    (Known.mk name key (given? some) setting).fault? d = none := fault?_eq_none fun _ => rfl

theorem fault?_text (d : Document) (name key : String) (setting : Settings → String) :
    (Known.mk name key some setting).fault? d = none := fault?_eq_none fun _ => rfl

theorem parsed_eq (hread : ∀ raw, (k.read raw).isSome = (trimmed read raw).isSome) :
    parsed read (sectionOf d k.sectionName) k.sectionName k.key =
      match k.fault? d with
      | some f => .error f
      | none => .ok ((k.look d).bind (trimmed read)) := by
  unfold parsed Known.fault? Known.look
  rw [get?_sectionOf]
  cases d.get? k.sectionName k.key with
  | none => rfl
  | some raw =>
    rw [Option.bind_some, Option.bind_some, hread, trimmed]
    dsimp only
    cases read (trim raw.toList) <;> rfl

theorem parsed_given (read : List Char → Option α) (d : Document) (name key : String)
    (setting : Settings → Option α) :
    parsed read (sectionOf d name) name key =
      match (Known.mk name key (given? (trimmed read)) setting).fault? d with
      | some f => .error f
      | none => .ok ((d.get? name key).bind (trimmed read)) :=
  @parsed_eq ⟨name, key, given? (trimmed read), setting⟩ d α read fun _ => Option.isSome_map

end Faults

/-- The first fault, or else what was found. -/
def settled {α : Type} (ks : List Known) (d : Document) (a : α) : Except Fault α :=
  match ks.findSome? (·.fault? d) with
  | some f => .error f
  | none => .ok a

section Settled

variable {α : Type} {ks : List Known} {d : Document} {a b : α} {f : Fault}

theorem settled_eq_error_iff :
    settled ks d a = .error f ↔ ks.findSome? (·.fault? d) = some f := by
  unfold settled
  cases ks.findSome? (·.fault? d) with
  | some g =>
    exact ⟨fun h => congrArg some (Except.error.inj h), fun h => congrArg _ (Option.some.inj h)⟩
  | none => exact iff_of_false (fun h => nomatch h) (fun h => nomatch h)

theorem settled_eq_ok_iff :
    settled ks d a = .ok b ↔ (∀ k ∈ ks, k.fault? d = none) ∧ a = b := by
  rw [← List.findSome?_eq_none_iff, settled]
  cases ks.findSome? (·.fault? d) with
  | some g => exact iff_of_false (fun h => nomatch h) (fun h => nomatch h.1)
  | none => exact ⟨fun h => ⟨rfl, Except.ok.inj h⟩, fun h => congrArg _ h.2⟩

end Settled

theorem connectionOf_eq (d : Document) :
    connectionOf (sectionOf d connectionSection) =
      settled knownConnection d (found d).connection := by
  have hport := parsed_given port? d connectionSection "port" (·.connection.port)
  have haccept := parsed_given flag? d connectionSection "accept_invalid_server_certs"
    (·.connection.acceptInvalidServerCerts)
  have htimeout := parsed_given count? d connectionSection "timeout_secs"
    (·.connection.timeoutSecs)
  rw [← connectionPort] at hport
  rw [← acceptance] at haccept
  rw [← timeout] at htimeout
  unfold connectionOf settled knownConnection
  rw [hport, haccept, htimeout]
  simp only [List.findSome?_cons, List.findSome?_nil, fault?_given_text, get?_sectionOf]
  cases connectionPort.fault? d with
  | some f => rfl
  | none =>
    cases acceptance.fault? d with
    | some f => rfl
    | none => cases timeout.fault? d <;> rfl

theorem uploadOf_eq (d : Document) :
    uploadOf (sectionOf d uploadSection) = settled knownUpload d (found d).upload := by
  have hport : parsed port? (sectionOf d uploadSection) uploadSection "port" = _ :=
    parsed_eq (k := uploadPort) fun _ => rfl
  unfold uploadOf settled knownUpload
  rw [hport]
  simp only [List.findSome?_cons, List.findSome?_nil, fault?_text, get?_sectionOf]
  cases uploadPort.fault? d <;> rfl

theorem ofDocument_eq (d : Document) : ofDocument d = settled known d (found d) := by
  have hconnection : ofSection connectionOf {} (d.section? connectionSection) =
      settled knownConnection d (found d).connection :=
    (ofSection_eq connectionOf rfl d connectionSection).trans (connectionOf_eq d)
  have hupload : ofSection uploadOf {} (d.section? uploadSection) =
      settled knownUpload d (found d).upload :=
    (ofSection_eq uploadOf rfl d uploadSection).trans (uploadOf_eq d)
  rw [ofDocument, hconnection, hupload]
  unfold settled known
  rw [List.findSome?_append]
  cases knownConnection.findSome? (·.fault? d) with
  | some f => rfl
  | none => cases knownUpload.findSome? (·.fault? d) <;> rfl

theorem findSome?_known (d : Document) :
    known.findSome? (·.fault? d) = parsedKeys.findSome? (·.fault? d) := by
  simp only [known, knownConnection, knownUpload, parsedKeys, List.cons_append, List.nil_append,
    List.findSome?_cons, List.findSome?_nil, fault?_given_text, fault?_text]

theorem ofDocument_eq_error_iff {d : Document} {f : Fault} :
    ofDocument d = .error f ↔ parsedKeys.findSome? (·.fault? d) = some f := by
  rw [ofDocument_eq, settled_eq_error_iff, findSome?_known]

theorem eq_found_of_ofDocument {d : Document} {s : Settings} (h : ofDocument d = .ok s) :
    s = found d :=
  (settled_eq_ok_iff.mp ((ofDocument_eq d).symm.trans h)).2.symm

theorem ofDocument_eq_ok_iff {d : Document} {s : Settings} :
    ofDocument d = .ok s ↔ ∀ k ∈ known, k.Holds d s := by
  simp only [ofDocument_eq, settled_eq_ok_iff, Known.holds_iff]
  constructor
  · rintro ⟨hfault, rfl⟩ k hk
    exact ⟨hfault k hk, setting_found d k hk⟩
  · intro h
    exact ⟨fun k hk => (h k hk).1,
      eq_of_setting_eq fun k hk => (setting_found d k hk).trans (h k hk).2.symm⟩

/-! ## Layout -/

theorem ofDocument_congr {d d' : Document} (h : ∀ k ∈ known, k.look d = k.look d') :
    ofDocument d = ofDocument d' := by
  have hfault : ∀ k ∈ known, k.fault? d = k.fault? d' := fun k hk => by
    rw [Known.fault?, Known.fault?, h k hk]
  have hsettings : found d = found d' := eq_of_setting_eq fun k hk => by
    rw [setting_found d k hk, setting_found d' k hk, Known.value, Known.value, h k hk]
  rw [ofDocument_eq, ofDocument_eq, settled, settled, hsettings, ← List.head?_filterMap,
    ← List.head?_filterMap, List.filterMap_congr hfault]

/-- The first section with each name and the first value with each key are all that counts, so
sections and values can change places with others of other names and keys, and what is unknown or
comes a second time can be added or left out. The result is the first fault in the order of the
keys, or else the settings that hold of what was found. -/
theorem ofDocument_lookup :
    (∀ d d', (∀ k ∈ known, k.look d = k.look d') → ofDocument d = ofDocument d') ∧
    (∀ d d', Relation.EqvGen (Document.Relaid knownNames) d d' → ofDocument d = ofDocument d') ∧
    (∀ d f, ofDocument d = .error f ↔ parsedKeys.findSome? (·.fault? d) = some f) ∧
    (∀ d s, ofDocument d = .ok s ↔ ∀ k ∈ known, k.Holds d s) ∧
    ∀ d, (∀ k ∈ known, k.look d = none) → ofDocument d = .ok {
      connection := ⟨none, none, none, none, none, none, none⟩
      upload := ⟨Batch.defaultUploadHostname, Batch.defaultUploadPort, Batch.defaultHssVendor,
        Batch.defaultProfileVendor, Batch.defaultInitialHssState⟩ } := by
  refine ⟨fun d d' => ofDocument_congr, fun d d' h => ofDocument_congr fun k hk => ?_,
    fun d f => ofDocument_eq_error_iff, fun d s => ofDocument_eq_ok_iff, fun d h => ?_⟩
  · have hname : (k.sectionName, k.key) ∈ knownNames := List.mem_map_of_mem hk
    exact (Document.get?_eq_of_relaid h hname).symm
  · refine ofDocument_eq_ok_iff.mpr fun k hk => ?_
    rw [Known.Holds, h k hk]

/-- Two faults, and the first of them in the document is not the one with the first key. -/
def tangled : Document := ⟨[
  ⟨some "upload", [("port", "65536"), ("hostname", "inventory")]⟩,
  ⟨some "es2plus", [("timeout_secs", " never "), ("port", " 8443 ")]⟩]⟩

/-- The same with sections in the other order, an unknown value, and a port that comes too late. -/
def untangled : Document := ⟨[
  ⟨some "es2plus", [("timeout_secs", " never "), ("cipher", "any"), ("port", " 8443 "),
    ("port", "none")]⟩,
  ⟨some "upload", [("port", "65536"), ("hostname", "inventory")]⟩]⟩

theorem relaid_tangled : Relation.EqvGen (Document.Relaid knownNames) tangled untangled := by
  have hsections : Document.Relaid knownNames tangled ⟨[
      ⟨some "es2plus", [("timeout_secs", " never "), ("port", " 8443 ")]⟩,
      ⟨some "upload", [("port", "65536"), ("hostname", "inventory")]⟩]⟩ :=
    .sections (.reordered (.swap (by decide) [] []))
  have hcipher : Document.Relaid knownNames ⟨[
      ⟨some "es2plus", [("timeout_secs", " never "), ("port", " 8443 ")]⟩,
      ⟨some "upload", [("port", "65536"), ("hostname", "inventory")]⟩]⟩ ⟨[
      ⟨some "es2plus", [("timeout_secs", " never "), ("cipher", "any"), ("port", " 8443 ")]⟩,
      ⟨some "upload", [("port", "65536"), ("hostname", "inventory")]⟩]⟩ := by
    refine .values [] _ (.unknown [_] _ ?_)
    rintro ⟨n, hname, hknown⟩
    cases hname
    revert hknown
    decide
  have hport : Document.Relaid knownNames ⟨[
      ⟨some "es2plus", [("timeout_secs", " never "), ("cipher", "any"), ("port", " 8443 ")]⟩,
      ⟨some "upload", [("port", "65536"), ("hostname", "inventory")]⟩]⟩ untangled :=
    .values [] _ (.again [_, _, _] [] (b := ("port", " 8443 ")) (by decide) rfl)
  exact .trans _ _ _ (.rel _ _ hsections) (.trans _ _ _ (.rel _ _ hcipher) (.rel _ _ hport))

/-- The value is reported with its blanks, from both documents. -/
theorem lookup_tangled : Relation.EqvGen (Document.Relaid knownNames) tangled untangled ∧
    ofDocument tangled = .error (.invalidValue "es2plus" "timeout_secs" " never ") ∧
    ofDocument untangled = .error (.invalidValue "es2plus" "timeout_secs" " never ") ∧
    ofDocument ⟨[]⟩ = .ok {} := by
  obtain ⟨-, hlaid, herror, -, habsent⟩ := ofDocument_lookup
  have hfault : ofDocument tangled = .error (.invalidValue "es2plus" "timeout_secs" " never ") :=
    (herror _ _).mpr (by decide +kernel)
  exact ⟨relaid_tangled, hfault, hlaid _ _ relaid_tangled ▸ hfault, habsent _ fun k _ => rfl⟩

end Provisioning.Settings
