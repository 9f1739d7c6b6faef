import Provisioning.Ini.Lexeme
import Provisioning.Ini.Document
/-!
# Reading settings documents

The text is read from left to right by what the next character starts: a comment, a section header,
a value or a key.

* `Progress` : the sections so far and the key that waits for its value;
* `step` : reads one part;
* `read?` : the document of a text; `none` if the text is none.

An indented key that cannot be read to its end is passed over, where any other is a fault.
-/

namespace Provisioning.Ini
open Text

structure Progress where
  /-- The sections so far, the current one first, the values of each the last one first. -/
  sections : List Section
  /-- The key that waits for its value; empty when none does. -/
  key : List Char

namespace Progress

def empty : Progress := ⟨[], []⟩

def document (p : Progress) : Document :=
  ⟨(p.sections.map fun s => { s with values := s.values.reverse }).reverse⟩

def openSection (p : Progress) (name : List Char) : Progress :=
  { p with sections := ⟨some (String.ofList (trim name)), []⟩ :: p.sections }

def withKey (p : Progress) (key : List Char) : Progress := { p with key := trim key }

def addValue (p : Progress) (value : List Char) : Progress :=
  let entry := (String.ofList p.key, String.ofList value)
  match p.sections with
  | [] => ⟨[⟨none, [entry]⟩], []⟩
  | s :: r => ⟨{ s with values := entry :: s.values } :: r, []⟩

end Progress

def isSeparator (c : Char) : Bool := c == '=' || c == ':'

def isComment (c : Char) : Bool := c == ';' || c == '#'

def afterComment (s : List Char) : Place :=
  let r := s.dropWhile (· != '\n')
  ⟨r.tail, !r.isEmpty⟩

def readHeader (p : Progress) (s : List Char) : Except Place (Progress × Place) :=
  (readUntil ⟨(· == ']'), false⟩ [] s).map fun (name, r) => (p.openSection name, ⟨r.tail, false⟩)

def readKey (p : Progress) (s : List Char) : Except Place (Progress × Place) :=
  (readUntil ⟨isSeparator, false⟩ [] s).map fun (key, r) => (p.withKey key, ⟨r, false⟩)

/-- Reads what the next character starts. Blanks that follow it are left out, but for those of a
blank line that is indented. -/
def step (p : Progress) (c : Char) (r : List Char) (fresh : Bool) :
    Except Place (Progress × Place) :=
  if isComment c then
    if fresh then .ok (p, skipBlanks (afterComment r)) else .error ⟨c :: r, fresh⟩
  else if c = '[' then (readHeader p r).map fun (p, q) => (p, skipBlanks q)
  else if isSeparator c then
    if p.key.isEmpty then .error ⟨c :: r, fresh⟩
    else (readValue r).map fun (value, t) => (p.addValue value, skipBlanks ⟨t, false⟩)
  else if isIndent c then
    match r.dropWhile isIndent with
    | [] => .ok (p, ⟨[], false⟩)
    | d :: t =>
      if d = '[' then (readHeader p t).map fun (p, q) => (p, skipBlanks q)
      else if isLineEnd d then .ok (p, ⟨t, d == '\n'⟩)
      else
        match readKey p (d :: t) with
        | .ok (p, q) => .ok (p, skipBlanks q)
        | .error q => .ok (p, skipBlanks q)
  else if isLineEnd c then .ok (p, skipBlanks ⟨r, c == '\n'⟩)
  else (readKey p (c :: r)).map fun (p, q) => (p, skipBlanks q)

/-! ### Each step takes a character at least -/

theorem length_readHeader_le {p p' : Progress} {s : List Char} {q : Place}
    (h : readHeader p s = .ok (p', q)) : q.rest.length ≤ s.length := by
  unfold readHeader at h
  cases hu : readUntil ⟨(· == ']'), false⟩ [] s with
  | error => simp [hu, Except.map] at h
  | ok x =>
    have := length_readUntil_le hu
    simp only [hu, Except.map, Except.ok.injEq, Prod.mk.injEq] at h
    simp only [← h.2, List.length_tail]
    omega

theorem length_readKey_lt {p p' : Progress} {c : Char} {r : List Char} {q : Place}
    (hc : isSeparator c = false) (h : readKey p (c :: r) = .ok (p', q)) :
    q.rest.length < (c :: r).length := by
  unfold readKey at h
  cases hu : readUntil ⟨isSeparator, false⟩ [] (c :: r) with
  | error => simp [hu, Except.map] at h
  | ok x =>
    have := length_readUntil_lt hc hu
    simp only [hu, Except.map, Except.ok.injEq, Prod.mk.injEq] at h
    simpa only [← h.2] using this

theorem length_readKey_le {p p' : Progress} {s : List Char} {q : Place}
    (h : readKey p s = .ok (p', q)) : q.rest.length ≤ s.length := by
  unfold readKey at h
  cases hu : readUntil ⟨isSeparator, false⟩ [] s with
  | error => simp [hu, Except.map] at h
  | ok x =>
    have := length_readUntil_le hu
    simp only [hu, Except.map, Except.ok.injEq, Prod.mk.injEq] at h
    simpa only [← h.2] using this

theorem length_readKey_error_le {p : Progress} {s : List Char} {q : Place}
    (h : readKey p s = .error q) : q.rest.length ≤ s.length := by
  unfold readKey at h
  cases hu : readUntil ⟨isSeparator, false⟩ [] s with
  | error =>
    have := length_readUntil_error_le hu
    simp only [hu, Except.map, Except.error.injEq] at h
    simpa only [← h] using this
  | ok x => simp [hu, Except.map] at h

theorem length_afterComment_le (s : List Char) : (afterComment s).rest.length ≤ s.length := by
  have := (List.dropWhile_suffix (l := s) fun c => c != '\n').length_le
  simp only [afterComment, List.length_tail]
  omega

theorem length_step_lt {p p' : Progress} {c : Char} {r : List Char} {fresh : Bool} {q : Place}
    (h : step p c r fresh = .ok (p', q)) : q.rest.length < (c :: r).length := by
  have skip (x : Place) (hx : x.rest.length < (c :: r).length) :
      (skipBlanks x).rest.length < (c :: r).length :=
    Nat.lt_of_le_of_lt (length_skipBlanks_le x) hx
  have indent := (List.dropWhile_suffix (l := r) isIndent).length_le
  unfold step at h
  split at h
  · split at h
    · simp only [Except.ok.injEq, Prod.mk.injEq] at h
      exact h.2 ▸ skip _ (Nat.lt_succ_of_le (length_afterComment_le r))
    · simp at h
  · split at h
    · cases hx : readHeader p r with
      | error => simp [hx, Except.map] at h
      | ok x =>
        have := length_readHeader_le hx
        simp only [hx, Except.map, Except.ok.injEq, Prod.mk.injEq] at h
        exact h.2 ▸ skip _ (Nat.lt_succ_of_le this)
    · split at h
      · split at h
        · simp at h
        · cases hx : readValue r with
          | error => simp [hx, Except.map] at h
          | ok x =>
            have := length_readValue_le hx
            simp only [hx, Except.map, Except.ok.injEq, Prod.mk.injEq] at h
            exact h.2 ▸ skip _ (Nat.lt_succ_of_le this)
      · rename_i hs
        split at h
        · split at h
          · simp only [Except.ok.injEq, Prod.mk.injEq] at h
            simp [← h.2]
          · rename_i d t hd
            rw [hd, List.length_cons] at indent
            split at h
            · cases hx : readHeader p t with
              | error => simp [hx, Except.map] at h
              | ok x =>
                have := length_readHeader_le hx
                simp only [hx, Except.map, Except.ok.injEq, Prod.mk.injEq] at h
                exact h.2 ▸ skip _ (by simp only [List.length_cons]; omega)
            · split at h
              · simp only [Except.ok.injEq, Prod.mk.injEq] at h
                simp only [← h.2, List.length_cons]
                omega
              · split at h <;> rename_i hx
                · have := length_readKey_le hx
                  simp only [Except.ok.injEq, Prod.mk.injEq] at h
                  simp only [List.length_cons] at this
                  exact h.2 ▸ skip _ (by simp only [List.length_cons]; omega)
                · have := length_readKey_error_le hx
                  simp only [Except.ok.injEq, Prod.mk.injEq] at h
                  simp only [List.length_cons] at this
                  exact h.2 ▸ skip _ (by simp only [List.length_cons]; omega)
        · split at h
          · simp only [Except.ok.injEq, Prod.mk.injEq] at h
            exact h.2 ▸ skip _ (by simp)
          · cases hx : readKey p (c :: r) with
            | error => simp [hx, Except.map] at h
            | ok x =>
              have := length_readKey_lt (by simpa using hs) hx
              simp only [hx, Except.map, Except.ok.injEq, Prod.mk.injEq] at h
              exact h.2 ▸ skip _ this

def run (p : Progress) (q : Place) : Option Document :=
  match q with
  | ⟨[], _⟩ => some p.document
  | ⟨c :: r, fresh⟩ =>
    match h : step p c r fresh with
    | .error _ => none
    | .ok (p, q) =>
      have := length_step_lt h
      run p q
  termination_by q.rest.length
  decreasing_by exact this

def read? (s : List Char) : Option Document := run .empty ⟨s, true⟩

end Provisioning.Ini
