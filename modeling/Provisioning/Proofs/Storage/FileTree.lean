import Provisioning.Storage.FileTree
/-!
# What file systems keep

* `FileSystem.Stores` : a file system keeps what is written to a path;
* `FileTree.stores` : the file system in memory does so for every path.
-/

namespace Provisioning

/-- A file system keeps what is written to a path. -/
def FileSystem.Stores {σ : Type} (fs : FileSystem (StateM σ)) (path : String) : Prop :=
  ∀ bytes w w', (fs.write path bytes).run w = (true, w') →
    ∃ w'', (fs.contains path).run w' = (true, w'') ∧ ((fs.read path).run w'').1 = some bytes

namespace FileTree

theorem node?_put_self (t : FileTree) {l : Location} (hl : l ≠ []) (n : Node) :
    (t.put l n).node? l = some n := by
  have hnone : (t.nodes.filter (·.1 != l)).find? (·.1 == l) = none :=
    List.find?_eq_none.mpr fun e he heq => by
      have hne := (List.mem_filter.mp he).2
      rw [bne_iff_ne] at hne
      exact hne (beq_iff_eq.mp heq)
  have hself : [(l, n)].find? (·.1 == l) = some (l, n) :=
    List.find?_cons_of_pos (beq_self_eq_true l)
  rw [node?, if_neg hl, put, List.find?_append, hnone, hself]
  rfl

theorem node?_put_of_ne (t : FileTree) {l l' : Location} (h : l' ≠ l) (n : Node) :
    (t.put l n).node? l' = t.node? l' := by
  have hsame : (t.nodes.filter (·.1 != l)).find? (·.1 == l') = t.nodes.find? (·.1 == l') := by
    rw [List.find?_filter]
    congr 1
    funext e
    by_cases he : e.1 = l'
    · simp [he, h]
    · simp [he]
  have hother : [(l, n)].find? (·.1 == l') = none :=
    List.find?_eq_none.mpr fun e he heq => by
      obtain rfl := List.mem_singleton.mp he
      exact h (beq_iff_eq.mp heq).symm
  rw [node?, node?, put, List.find?_append, hsame, hother, Option.or_none]

theorem isDirectory_put {t : FileTree} {l : Location} (h : t.isDirectory l = false)
    (bytes : List UInt8) : (t.put l (.file bytes)).isDirectory = t.isDirectory := by
  funext l'
  by_cases hl' : l' = l
  · have hl : l ≠ [] := by
      rintro rfl
      cases h
    rw [hl', h, isDirectory, node?_put_self t hl]
    rfl
  · rw [isDirectory, isDirectory, node?_put_of_ne t hl']

theorem run_change_eq_true {f : FileTree → Option FileTree} {t u : FileTree}
    (h : (change f).run t = (true, u)) : f t = some u := by
  rw [StateT.run, change] at h
  cases hf : f t with
  | none =>
    rw [hf] at h
    cases h
  | some v =>
    rw [hf] at h
    rw [(Prod.mk.inj h).2]

theorem stores (path : String) : fileSystem.Stores path := by
  intro bytes t u h
  have hwrite : t.write? path bytes = some u := run_change_eq_true h
  obtain ⟨l, hl, hput⟩ := Option.bind_eq_some_iff.mp hwrite
  cases hdir : t.isDirectory l with
  | true =>
    rw [hdir] at hput
    cases hput
  | false =>
    rw [hdir] at hput
    cases hput
    have hne : l ≠ [] := by
      rintro rfl
      cases hdir
    have hlocate : (t.put l (.file bytes)).locate? path = some l := by
      rw [← hl, locate?, locate?, isDirectory_put hdir]
      rfl
    have hnode := node?_put_self t hne (.file bytes)
    refine ⟨t.put l (.file bytes), ?_, ?_⟩
    · change ((t.put l (.file bytes)).contains path, _) = _
      rw [contains, hlocate, Option.any_some, hnode]
      rfl
    · change (t.put l (.file bytes)).read path = _
      rw [read, hlocate, Option.bind_some, hnode]

end FileTree

end Provisioning
