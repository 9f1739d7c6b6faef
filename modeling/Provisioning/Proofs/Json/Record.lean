import Mathlib.Data.List.Forall2
import Mathlib.Data.List.Pairwise
import Mathlib.Data.Option.Basic
import Mathlib.Logic.Function.Basic
import Provisioning.Json.Decode
/-!
# Records from members in any order

What a record is read to depends on the values of its fields alone: not on the order of the
members, on members that no field has, or on a `null` where a member could be missing.

* `Tree.IsWhole` : a value without a fault; it can be passed over;
* `record_keeps` : what every field keeps holds of a record that is read;
* `given?` : the value of a field in an object, `null` being none;
* `RecordField.Commutes`, `Lawful` : fields that do not get in each other's way;
* `fill`, `members_toOption` : members are read as if the fields took their values in turn;
* `SameLeaf`, `SameList`, `SameRecord` : values that differ at most in what does not count;
* `Decoder.Respects` : a decoder that reads such values alike; `list_respects`, `record_respects`.
-/

namespace Provisioning.Json

variable {σ α : Type}

/-! ## Whole values -/

/-- A value without a fault, whose strings need not be texts. -/
inductive Tree.IsWhole : Tree → Prop
  | null : IsWhole .null
  | bool (b : Bool) : IsWhole (.bool b)
  | number (literal : List UInt8) : IsWhole (.number literal)
  | string (body : List UInt8) : IsWhole (.string body)
  | array {items : List Tree} (h : ∀ t ∈ items, IsWhole t) : IsWhole (.array items none)
  | object {members : List (List UInt8 × Tree)} (h : ∀ m ∈ members, IsWhole m.2) :
    IsWhole (.object members none)

theorem passOverLast_eq_none {items : List Tree} (h : ∀ t ∈ items, passOver t = none) :
    passOver.passOverLast items = none := by
  induction items with
  | nil => rfl
  | cons t r ih =>
    cases r with
    | nil => exact h t List.mem_cons_self
    | cons u r => exact ih fun v hv => h v (List.mem_cons_of_mem t hv)

theorem passOverLastMember_eq_none {members : List (List UInt8 × Tree)}
    (h : ∀ m ∈ members, passOver m.2 = none) : passOver.passOverLastMember members = none := by
  induction members with
  | nil => rfl
  | cons m r ih =>
    cases r with
    | nil => exact h m List.mem_cons_self
    | cons n r => exact ih fun k hk => h k (List.mem_cons_of_mem m hk)

theorem Tree.IsWhole.passOver {t : Tree} (h : t.IsWhole) : Json.passOver t = none := by
  induction h with
  | null | bool | number | string => rfl
  | array _ ih => exact passOverLast_eq_none ih
  | object _ ih => exact passOverLastMember_eq_none ih

/-! ## Results without their faults -/

theorem toOption_bind {ε β : Type} (x : Except ε α) (f : α → Except ε β) :
    (x >>= f).toOption = x.toOption.bind fun a => (f a).toOption := by
  cases x <;> rfl

theorem toOption_map {ε β : Type} (x : Except ε α) (f : α → β) :
    (x.map f).toOption = x.toOption.map f := by
  cases x <;> rfl

/-! ## What every field keeps -/

theorem bind_eq_ok {ε β : Type} {x : Except ε α} {f : α → Except ε β} {b : β}
    (h : x >>= f = .ok b) : ∃ a, x = .ok a ∧ f a = .ok b := by
  cases x with
  | error e => cases h
  | ok a => exact ⟨a, rfl, h⟩

section Keeps

variable {P : σ → Prop} {fields : List (RecordField σ)} {s u : σ}

theorem members_keeps (hput : ∀ f ∈ fields, ∀ s t s', P s → f.put s t = .ok s' → P s')
    {seen : List String} {ms : List (List UInt8 × Tree)} (hs : P s)
    (h : members fields seen s ms = .ok u) : P u := by
  induction ms generalizing seen s with
  | nil => exact Except.ok.inj h ▸ hs
  | cons m ms ih =>
    unfold members at h
    obtain ⟨key, -, h⟩ := bind_eq_ok h
    cases hfind : fields.find? (·.name == key) with
    | none =>
      rw [hfind] at h
      obtain ⟨-, -, h⟩ := bind_eq_ok h
      exact ih hs h
    | some f =>
      rw [hfind] at h
      dsimp only at h
      split at h
      · cases h
      · obtain ⟨s', hs', h⟩ := bind_eq_ok h
        exact ih (hput f (List.mem_of_find?_eq_some hfind) s m.2 s' hs hs') h

theorem items_keeps (hput : ∀ f ∈ fields, ∀ s t s', P s → f.put s t = .ok s' → P s')
    {ts : List Tree} (hs : P s) (h : items s fields ts = .ok u) : P u := by
  induction fields generalizing s ts with
  | nil =>
    cases ts with
    | nil => exact Except.ok.inj h ▸ hs
    | cons t r => cases h
  | cons f fs ih =>
    cases ts with
    | nil => exact Except.ok.inj h ▸ hs
    | cons t r =>
      unfold items at h
      obtain ⟨s', hs', h⟩ := bind_eq_ok h
      exact ih (fun g hg => hput g (List.mem_cons_of_mem f hg))
        (hput f List.mem_cons_self s t s' hs hs') h

/-- What the default has and every field keeps holds of a record that is read. -/
theorem record_keeps (hput : ∀ f ∈ fields, ∀ s t s', P s → f.put s t = .ok s' → P s')
    {default : σ} (hdefault : P default) {t : Tree}
    (h : Decoder.record fields default t = .ok u) : P u := by
  unfold Decoder.record at h
  split at h
  · obtain ⟨s', hs', h⟩ := bind_eq_ok h
    obtain ⟨-, -, h⟩ := bind_eq_ok h
    exact Except.ok.inj h ▸ members_keeps hput hdefault hs'
  · obtain ⟨s', hs', h⟩ := bind_eq_ok h
    obtain ⟨-, -, h⟩ := bind_eq_ok h
    exact Except.ok.inj h ▸ items_keeps hput hdefault hs'
  · cases h

end Keeps

theorem RecordField.put_of_eq_ok {name : String} {read : Decoder α} {set : σ → α → σ} {s s' : σ}
    {t : Tree} (h : (RecordField.of name read set).put s t = .ok s') :
    ∃ a, read t = .ok a ∧ s' = set s a := by
  unfold RecordField.of at h
  dsimp only at h
  cases hread : read t with
  | error e =>
    rw [hread] at h
    cases h
  | ok a =>
    rw [hread] at h
    exact ⟨a, rfl, (Except.ok.inj h).symm⟩

/-! ## Fields that do not get in each other's way -/

/-- The record with a value in a field, if the field takes it. -/
def RecordField.put? (f : RecordField σ) (s : σ) (t : Tree) : Option σ := (f.put s t).toOption

theorem RecordField.put?_of (name : String) (read : Decoder α) (set : σ → α → σ) (s : σ)
    (t : Tree) : (RecordField.of name read set).put? s t = (read t).toOption.map (set s) :=
  toOption_map (read t) (set s)

/-- Two fields can take their values in either order. -/
def RecordField.Commutes (f g : RecordField σ) : Prop :=
  ∀ s t u, ((f.put? s t).bind fun s => g.put? s u) = (g.put? s u).bind fun s => f.put? s t

theorem RecordField.commutes_of {β : Type} {name name' : String} {read : Decoder α}
    {read' : Decoder β} {set : σ → α → σ} {set' : σ → β → σ}
    (h : ∀ s a b, set' (set s a) b = set (set' s b) a) :
    (RecordField.of name read set).Commutes (.of name' read' set') := by
  intro s t u
  simp only [put?_of]
  cases (read t).toOption with
  | none => cases (read' u).toOption <;> rfl
  | some a =>
    cases (read' u).toOption with
    | none => rfl
    | some b => exact congrArg some (h s a b)

/-- Fields with names of their own, which can take their values in any order, and of which a `null`
leaves the default as it is. -/
structure Lawful (fields : List (RecordField σ)) (default : σ) : Prop where
  names : (fields.map (·.name)).Nodup
  commute : fields.Pairwise RecordField.Commutes
  null : ∀ f ∈ fields, f.put default .null = .ok default

instance : Std.Symm (@RecordField.Commutes σ) := ⟨fun _ _ h s t u => (h s u t).symm⟩

theorem Lawful.commutes {fields : List (RecordField σ)} {default : σ}
    (h : Lawful fields default) {f g : RecordField σ} (hf : f ∈ fields) (hg : g ∈ fields)
    (hne : f.name ≠ g.name) : f.Commutes g :=
  h.commute.forall hf hg fun heq => hne (congrArg _ heq)

/-! ## Records as the values of their fields -/

/-- Each field in turn takes its value, if there is one. -/
def fill (s : σ) (value? : String → Option Tree) : List (RecordField σ) → Option σ
  | [] => some s
  | f :: fs =>
    match value? f.name with
    | none => fill s value? fs
    | some t => (f.put? s t).bind fun s => fill s value? fs

section Fill

variable {fields : List (RecordField σ)} {value? value?' : String → Option Tree}

theorem fill_congr (h : ∀ f ∈ fields, value? f.name = value?' f.name) (s : σ) :
    fill s value? fields = fill s value?' fields := by
  induction fields generalizing s with
  | nil => rfl
  | cons f fs ih =>
    have hfs : ∀ s, fill s value? fs = fill s value?' fs :=
      ih fun g hg => h g (List.mem_cons_of_mem f hg)
    simp only [fill, h f List.mem_cons_self, hfs]

theorem fill_none (s : σ) : fill s (fun _ => none) fields = some s := by
  induction fields with
  | nil => rfl
  | cons f fs ih => exact ih

/-- A field may take its value before all others. -/
theorem fill_update (hnames : (fields.map (·.name)).Nodup)
    (hcommute : fields.Pairwise RecordField.Commutes) {f : RecordField σ} (hf : f ∈ fields)
    (hnone : value? f.name = none) (t : Tree) (s : σ) :
    fill s (Function.update value? f.name (some t)) fields =
      (f.put? s t).bind fun s => fill s value? fields := by
  induction fields generalizing s with
  | nil => cases hf
  | cons g gs ih =>
    rw [List.map_cons, List.nodup_cons] at hnames
    rw [List.pairwise_cons] at hcommute
    by_cases hname : g.name = f.name
    · -- The field itself: no other field has its name, so the update is not seen behind it.
      have hgs : f ∉ gs := fun hmem => hnames.1 (hname ▸ List.mem_map_of_mem hmem)
      obtain rfl : f = g := (List.mem_cons.mp hf).resolve_right hgs
      have hrest : ∀ s, fill s (Function.update value? f.name (some t)) gs = fill s value? gs := by
        refine fill_congr fun h hh => Function.update_of_ne (fun heq => hnames.1 ?_) _ _
        exact heq ▸ List.mem_map_of_mem hh
      simp only [fill, Function.update_self, hnone, hrest]
    · have hmem : f ∈ gs := (List.mem_cons.mp hf).resolve_left fun heq => hname (heq ▸ rfl)
      have hrest := ih hnames.2 hcommute.2 hmem
      simp only [fill, Function.update_of_ne hname]
      cases value? g.name with
      | none => exact hrest s
      | some u =>
        dsimp only
        calc (g.put? s u).bind (fun s => fill s (Function.update value? f.name (some t)) gs)
          _ = (g.put? s u).bind (fun s => (f.put? s t).bind fun s => fill s value? gs) := by
              simp only [hrest]
          _ = ((g.put? s u).bind fun s => f.put? s t).bind (fun s => fill s value? gs) :=
              (Option.bind_assoc _ _ _).symm
          _ = ((f.put? s t).bind fun s => g.put? s u).bind (fun s => fill s value? gs) := by
              rw [hcommute.1 f hmem s u t]
          _ = (f.put? s t).bind (fun s => (g.put? s u).bind fun s => fill s value? gs) :=
              Option.bind_assoc _ _ _

end Fill

/-! ## Members -/

def keyOf? (m : List UInt8 × Tree) : Option String := (text m.1).toOption

/-- The value of a key in an object. A `null` is no value. -/
def given? (ms : List (List UInt8 × Tree)) (key : String) : Option Tree :=
  match ms.find? fun m => keyOf? m == some key with
  | none => none
  | some (_, .null) => none
  | some (_, t) => some t

/-- An object for a record: all keys are texts, the values of keys that are not known are whole, and
no known key occurs twice. -/
structure IsKeyed (known : List String) (ms : List (List UInt8 × Tree)) : Prop where
  key : ∀ m ∈ ms, ∃ key, text m.1 = .ok key
  whole : ∀ m ∈ ms, (∀ name ∈ known, keyOf? m ≠ some name) → m.2.IsWhole
  once : ms.Pairwise fun m n => ∀ name ∈ known, keyOf? m = some name → keyOf? n ≠ some name

theorem IsKeyed.tail {known : List String} {m : List UInt8 × Tree} {ms : List (List UInt8 × Tree)}
    (h : IsKeyed known (m :: ms)) : IsKeyed known ms :=
  ⟨fun n hn => h.key n (List.mem_cons_of_mem m hn),
    fun n hn => h.whole n (List.mem_cons_of_mem m hn),
    (List.pairwise_cons.mp h.once).2⟩

section Members

variable {m : List UInt8 × Tree} {ms : List (List UInt8 × Tree)} {key name : String}

theorem keyOf?_of_ok (h : text m.1 = .ok key) : keyOf? m = some key := by
  unfold keyOf?
  rw [h]
  rfl

theorem given?_cons_of_ne (h : keyOf? m ≠ some name) : given? (m :: ms) name = given? ms name := by
  unfold given?
  rw [List.find?_cons_of_neg (by simpa using h)]

theorem given?_eq_none (h : ∀ m ∈ ms, keyOf? m ≠ some name) : given? ms name = none := by
  unfold given?
  rw [List.find?_eq_none.mpr fun m hm => by simpa using h m hm]

theorem given?_cons_null {body : List UInt8} (h : keyOf? (body, Tree.null) = some name) :
    given? ((body, Tree.null) :: ms) name = none := by
  unfold given?
  rw [List.find?_cons_of_pos (by simpa using h)]

theorem given?_cons_self {body : List UInt8} {t : Tree} (h : keyOf? (body, t) = some name)
    (ht : t ≠ .null) : given? ((body, t) :: ms) name = some t := by
  unfold given?
  rw [List.find?_cons_of_pos (by simpa using h)]
  cases t <;> first | rfl | exact absurd rfl ht

end Members

/-! ## Reading members -/

/-- A field that has not come yet: a `null` would leave the record as it is. -/
def Untouched (s : σ) (f : RecordField σ) : Prop := f.put s .null = .ok s

theorem Untouched.put {f g : RecordField σ} (hcommute : g.Commutes f) {s s' : σ} {t : Tree}
    (h : Untouched s f) (hput : g.put s t = .ok s') : Untouched s' f := by
  have hboth := hcommute s t .null
  unfold RecordField.put? at hboth
  rw [hput, h] at hboth
  change (f.put s' .null).toOption = (g.put s t).toOption at hboth
  rw [hput] at hboth
  unfold Untouched
  cases hnull : f.put s' .null with
  | error e =>
    rw [hnull] at hboth
    cases hboth
  | ok u =>
    rw [hnull] at hboth
    exact congrArg Except.ok (Option.some.inj hboth)

theorem find?_name_eq_none {fields : List (RecordField σ)} {key : String}
    (h : fields.find? (·.name == key) = none) {f : RecordField σ} (hf : f ∈ fields) :
    f.name ≠ key := by
  simpa using List.find?_eq_none.mp h f hf

/-- Members are read as if the fields took their values in turn. -/
theorem members_toOption {fields : List (RecordField σ)} {default s : σ}
    (hl : Lawful fields default) {ms : List (List UInt8 × Tree)}
    (hms : IsKeyed (fields.map (·.name)) ms) {seen : List String}
    (hseen : ∀ m ∈ ms, ∀ key ∈ seen, keyOf? m ≠ some key)
    (hs : ∀ f ∈ fields, f.name ∉ seen → Untouched s f) :
    (members fields seen s ms).toOption = fill s (given? ms) fields := by
  induction ms generalizing seen s with
  | nil =>
    show some s = _
    exact (fill_none s).symm
  | cons m ms ih =>
    obtain ⟨body, t⟩ := m
    obtain ⟨key, hkey⟩ := hms.key (body, t) List.mem_cons_self
    have hname : keyOf? (body, t) = some key := keyOf?_of_ok hkey
    have hrest : ∀ n ∈ ms, ∀ k ∈ seen, keyOf? n ≠ some k :=
      fun n hn => hseen n (List.mem_cons_of_mem _ hn)
    unfold members
    rw [hkey]
    dsimp only [bind, Except.bind]
    cases hfind : fields.find? (·.name == key) with
    | none =>
      have hne : ∀ f ∈ fields, keyOf? (body, t) ≠ some f.name := by
        intro f hf heq
        exact find?_name_eq_none hfind hf (Option.some.inj (heq.symm.trans hname))
      have hwhole : t.IsWhole := by
        refine hms.whole (body, t) List.mem_cons_self fun name hmem => ?_
        obtain ⟨f, hf, rfl⟩ := List.mem_map.mp hmem
        exact hne f hf
      dsimp only
      rw [hwhole.passOver]
      dsimp only [endOf]
      rw [ih hms.tail hrest hs]
      exact (fill_congr (fun f hf => given?_cons_of_ne (hne f hf)) s).symm
    | some f =>
      have hf : f ∈ fields := List.mem_of_find?_eq_some hfind
      obtain rfl : f.name = key := by simpa using List.find?_some hfind
      have hfirst : f.name ∉ seen := fun hmem => hseen _ List.mem_cons_self _ hmem hname
      have honce : ∀ n ∈ ms, keyOf? n ≠ some f.name := fun n hn =>
        (List.pairwise_cons.mp hms.once).1 n hn f.name (List.mem_map_of_mem hf) hname
      have hseen' : ∀ n ∈ ms, ∀ k ∈ f.name :: seen, keyOf? n ≠ some k := by
        intro n hn k hk
        rcases List.mem_cons.mp hk with rfl | hk
        · exact honce n hn
        · exact hrest n hn k hk
      have hothers : ∀ g ∈ fields, g.name ≠ f.name →
          given? ((body, t) :: ms) g.name = given? ms g.name := by
        intro g _ hne
        refine given?_cons_of_ne fun heq => hne ?_
        exact Option.some.inj (heq.symm.trans hname)
      have hnone : given? ms f.name = none := given?_eq_none honce
      dsimp only
      rw [if_neg (by simpa using hfirst)]
      by_cases ht : t = .null
      · -- A `null` changes nothing, here or in the values of the fields.
        subst ht
        rw [hs f hf hfirst]
        dsimp only
        rw [ih hms.tail hseen' fun g hg hk => hs g hg fun hmem => hk (List.mem_cons_of_mem _ hmem)]
        refine fill_congr (fun g hg => ?_) s
        by_cases hne : g.name = f.name
        · rw [hne, hnone, given?_cons_null hname]
        · exact (hothers g hg hne).symm
      · have hvalues : ∀ g ∈ fields, given? ((body, t) :: ms) g.name =
            Function.update (given? ms) f.name (some t) g.name := by
          intro g hg
          by_cases hne : g.name = f.name
          · rw [hne, Function.update_self, given?_cons_self hname ht]
          · rw [Function.update_of_ne hne, hothers g hg hne]
        rw [fill_congr hvalues, fill_update hl.names hl.commute hf hnone]
        unfold RecordField.put?
        cases hput : f.put s t with
        | error e => rfl
        | ok s' =>
          dsimp only
          refine ih hms.tail hseen' fun g hg hk => ?_
          have hne : f.name ≠ g.name := fun heq => hk (heq ▸ List.mem_cons_self)
          exact (hs g hg fun hmem => hk (List.mem_cons_of_mem _ hmem)).put
            (hl.commutes hf hg hne) hput

/-! ## Values that differ in what does not count -/

/-- Values of one kind that hold no others; strings are the same if their texts are, and numbers are
not told apart, since no field takes one. -/
inductive SameScalar : Tree → Tree → Prop
  | null : SameScalar .null .null
  | bool (b : Bool) : SameScalar (.bool b) (.bool b)
  | number (literal literal' : List UInt8) : SameScalar (.number literal) (.number literal')
  | string {body body' : List UInt8} (h : text body = text body') :
    SameScalar (.string body) (.string body')

/-- Values of a field that takes neither a list nor a record. -/
inductive SameLeaf : Tree → Tree → Prop
  | scalar {t t' : Tree} (h : SameScalar t t') : SameLeaf t t'
  | array (ts ts' : List Tree) : SameLeaf (.array ts none) (.array ts' none)
  | object (ms ms' : List (List UInt8 × Tree)) : SameLeaf (.object ms none) (.object ms' none)

/-- Values of a field that takes a list: as many items, and each the same as the other. -/
inductive SameList (same : Tree → Tree → Prop) : Tree → Tree → Prop
  | scalar {t t' : Tree} (h : SameScalar t t') : SameList same t t'
  | array {ts ts' : List Tree} (h : List.Forall₂ same ts ts') :
    SameList same (.array ts none) (.array ts' none)
  | object (ms ms' : List (List UInt8 × Tree)) : SameList same (.object ms none) (.object ms' none)

/-- What is the same for the value of each known key of a record. -/
abbrev Known := List (String × (Tree → Tree → Prop))

/-- Values of the fields in their order, each the same as the other. -/
def SameRow : Known → List Tree → List Tree → Prop
  | _, [], [] => True
  | [], _ :: _, _ :: _ => True
  | p :: ps, t :: ts, t' :: ts' => p.2 t t' ∧ SameRow ps ts ts'
  | _, _, _ => False

/-- Values of a field that takes a record. Two objects are the same if each known key has the same
value in them, or none but `null`; keys that are not known do not count, nor does the order. -/
inductive SameRecord (known : Known) : Tree → Tree → Prop
  | scalar {t t' : Tree} (h : SameScalar t t') : SameRecord known t t'
  | array {ts ts' : List Tree} (h : SameRow known ts ts') :
    SameRecord known (.array ts none) (.array ts' none)
  | object {ms ms' : List (List UInt8 × Tree)} (h : IsKeyed (known.map (·.1)) ms)
    (h' : IsKeyed (known.map (·.1)) ms')
    (hsame : ∀ p ∈ known, Option.Rel p.2 (given? ms p.1) (given? ms' p.1)) :
    SameRecord known (.object ms none) (.object ms' none)

/-- Values of one kind cannot be told apart as `null` and something else. -/
def NullAlone (same : Tree → Tree → Prop) : Prop :=
  ∀ ⦃t t'⦄, same t t' → (t = .null ↔ t' = .null)

theorem SameScalar.nullAlone : NullAlone SameScalar := fun _ _ h => by cases h <;> simp

theorem SameLeaf.nullAlone : NullAlone SameLeaf := by
  intro t t' h
  cases h with
  | scalar h => exact SameScalar.nullAlone h
  | array | object => simp

theorem SameList.nullAlone {same : Tree → Tree → Prop} : NullAlone (SameList same) := by
  intro t t' h
  cases h with
  | scalar h => exact SameScalar.nullAlone h
  | array | object => simp

theorem SameRecord.nullAlone {known : Known} : NullAlone (SameRecord known) := by
  intro t t' h
  cases h with
  | scalar h => exact SameScalar.nullAlone h
  | array | object => simp

/-! ## Decoders that read such values alike -/

/-- Of two values that are the same, both are read, to one result, or neither is. -/
def Decoder.Respects (read : Decoder α) (same : Tree → Tree → Prop) : Prop :=
  ∀ ⦃t t'⦄, same t t' → (read t).toOption = (read t').toOption

theorem string_respects : Decoder.string.Respects SameLeaf := by
  intro t t' h
  cases h with
  | scalar h =>
    cases h with
    | string h => exact congrArg Except.toOption h
    | _ => rfl
  | array | object => rfl

theorem bool_respects : Decoder.bool.Respects SameLeaf := by
  intro t t' h
  cases h with
  | scalar h => cases h <;> rfl
  | array | object => rfl

section Respects

variable {read : Decoder α} {same : Tree → Tree → Prop}

theorem map_respects {β : Type} (h : read.Respects same) (f : α → β) :
    Decoder.Respects (fun t => (read t).map f) same := by
  intro t t' ht
  rw [toOption_map, toOption_map, h ht]

theorem orDefault_respects (h : read.Respects same) (hnull : NullAlone same) (default : α) :
    (Decoder.orDefault default read).Respects same := by
  intro t t' ht
  by_cases hn : t = .null
  · rw [hn, (hnull ht).mp hn]
  · have hn' : t' ≠ .null := fun heq => hn ((hnull ht).mpr heq)
    rw [Decoder.orDefault.eq_def, Decoder.orDefault.eq_def]
    cases t <;> cases t' <;> first | exact h ht | exact absurd rfl hn | exact absurd rfl hn'

theorem optional_respects (h : read.Respects same) (hnull : NullAlone same) :
    (Decoder.optional read).Respects same := by
  intro t t' ht
  by_cases hn : t = .null
  · rw [hn, (hnull ht).mp hn]
  · have hn' : t' ≠ .null := fun heq => hn ((hnull ht).mpr heq)
    rw [Decoder.optional.eq_def, Decoder.optional.eq_def]
    cases t <;> cases t' <;>
      first | exact map_respects h some ht | exact absurd rfl hn | exact absurd rfl hn'

theorem mapM_toOption (h : read.Respects same) {ts ts' : List Tree}
    (hts : List.Forall₂ same ts ts') : (ts.mapM read).toOption = (ts'.mapM read).toOption := by
  induction hts with
  | nil => rfl
  | cons ht _ ih =>
    rw [List.mapM_cons, List.mapM_cons, toOption_bind, toOption_bind, h ht]
    simp only [toOption_bind, ih]

theorem list_respects (h : read.Respects same) :
    (Decoder.list read).Respects (SameList same) := by
  intro t t' ht
  cases ht with
  | scalar ht => cases ht <;> rfl
  | array hts =>
    unfold Decoder.list
    rw [toOption_bind, toOption_bind, mapM_toOption h hts]
  | object => rfl

end Respects

/-- A field that takes the values of a known key alike. -/
structure RecordField.Takes (f : RecordField σ) (p : String × (Tree → Tree → Prop)) : Prop where
  name : f.name = p.1
  put? : ∀ s ⦃t t'⦄, p.2 t t' → f.put? s t = f.put? s t'

theorem RecordField.takes_of {name : String} {read : Decoder α} {same : Tree → Tree → Prop}
    (h : read.Respects same) (set : σ → α → σ) :
    (RecordField.of name read set).Takes (name, same) := by
  refine ⟨rfl, fun s t t' ht => ?_⟩
  rw [put?_of, put?_of, h ht]

section Record

variable {fields : List (RecordField σ)} {known : Known}

theorem fill_same (h : List.Forall₂ RecordField.Takes fields known)
    {value? value?' : String → Option Tree}
    (hsame : ∀ p ∈ known, Option.Rel p.2 (value? p.1) (value?' p.1)) (s : σ) :
    fill s value? fields = fill s value?' fields := by
  induction h generalizing s with
  | nil => rfl
  | @cons f p fs ps hf _ ih =>
    have hrest : ∀ s, fill s value? fs = fill s value?' fs :=
      ih fun q hq => hsame q (List.mem_cons_of_mem p hq)
    have hrel := hsame p List.mem_cons_self
    rw [← hf.name] at hrel
    simp only [fill]
    revert hrel
    cases value? f.name with
    | none =>
      cases value?' f.name with
      | none => exact fun _ => hrest s
      | some u => exact fun h => by cases h
    | some t =>
      cases value?' f.name with
      | none => exact fun h => by cases h
      | some u =>
        intro h
        obtain ⟨h⟩ := h
        simp only [hf.put? s h, hrest]

theorem items_same (h : List.Forall₂ RecordField.Takes fields known) {ts ts' : List Tree}
    (hrow : SameRow known ts ts') (s : σ) :
    (items s fields ts).toOption = (items s fields ts').toOption := by
  induction h generalizing s ts ts' with
  | nil =>
    cases ts <;> cases ts' <;> first | rfl | exact hrow.elim
  | @cons f p fs ps hf _ ih =>
    rcases ts with - | ⟨t, ts⟩ <;> rcases ts' with - | ⟨t', ts'⟩
    · rfl
    · exact hrow.elim
    · exact hrow.elim
    · have hput : (f.put s t).toOption = (f.put s t').toOption := hf.put? s hrow.1
      unfold items
      rw [toOption_bind, toOption_bind, hput]
      simp only [ih hrow.2]

theorem map_name_eq (h : List.Forall₂ RecordField.Takes fields known) :
    fields.map (·.name) = known.map (·.1) := by
  induction h with
  | nil => rfl
  | cons hf _ ih => rw [List.map_cons, List.map_cons, hf.name, ih]

/-- A record is read alike from values that are the same. -/
theorem record_respects {default : σ} (hl : Lawful fields default)
    (h : List.Forall₂ RecordField.Takes fields known) :
    (Decoder.record fields default).Respects (SameRecord known) := by
  intro t t' ht
  cases ht with
  | scalar ht => cases ht <;> rfl
  | array hrow =>
    unfold Decoder.record
    rw [toOption_bind, toOption_bind, items_same h hrow default]
  | @object ms ms' hms hms' hsame =>
    rw [← map_name_eq h] at hms hms'
    have hread : ∀ {ms}, IsKeyed (fields.map (·.name)) ms →
        (members fields [] default ms).toOption = fill default (given? ms) fields := by
      intro ms hms
      refine members_toOption hl hms ?_ fun f hf _ => hl.null f hf
      exact fun _ _ _ hnil => absurd hnil List.not_mem_nil
    unfold Decoder.record
    rw [toOption_bind, toOption_bind, hread hms, hread hms', fill_same h hsame]

end Record

end Provisioning.Json
