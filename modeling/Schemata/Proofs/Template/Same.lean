import Schemata.Template

/-!
# Comparing templates

Bool-valued equality of template trees, written for kernel evaluation. It knows texts, printed
values, loops and conditions, over variables with filters and comparisons; everything else counts
as different. `Template.eq_of_same` is its soundness.
-/

namespace Schemata.Template

mutual

def Expr.same : Expr → Expr → Bool
  | .mk t n fs, .mk u m gs => t.same u && n == m && sameCalls fs gs

def Term.same : Term → Term → Bool
  | .text s, .text t => s == t
  | .path p, .path q => p == q
  | .relation op l r, .relation op' l' r' => op == op' && l.same l' && r.same r'
  | _, _ => false

/-- Calls without arguments. -/
def sameCalls : List Call → List Call → Bool
  | [], [] => true
  | .mk f [] :: fs, .mk g [] :: gs => f == g && sameCalls fs gs
  | _, _ => false

end

mutual

def Node.same : Node → Node → Bool
  | .text s, .text t => s == t
  | .tag a (.print e), .tag b (.print f) => a == b && e.same f
  | .body o c (.loop k n e) ns none, .body o' c' (.loop k' n' e') ns' none =>
    o == o' && c == c' && k == k' && n == n' && e.same e' && sameNodes ns ns'
  | .cond bs none c, .cond bs' none c' => sameBranches bs bs' && c == c'
  | _, _ => false

def sameNodes : List Node → List Node → Bool
  | [], [] => true
  | n :: ns, m :: ms => n.same m && sameNodes ns ms
  | _, _ => false

def sameBranches : List (Trim × Expr × List Node) → List (Trim × Expr × List Node) → Bool
  | [], [] => true
  | (t, e, ns) :: bs, (u, f, ms) :: cs =>
    t == u && e.same f && sameNodes ns ms && sameBranches bs cs
  | _, _ => false

end

/-- The same name and nodes, and neither blocks nor macros nor imports. -/
def same (s t : Template) : Bool :=
  s.name == t.name && sameNodes s.nodes t.nodes && s.blocks.isEmpty && t.blocks.isEmpty &&
    s.macros.isEmpty && t.macros.isEmpty && s.imports.isEmpty && t.imports.isEmpty

mutual

theorem Expr.eq_of_same : ∀ {e f : Expr}, e.same f → e = f
  | .mk t n fs, .mk u m gs, h => by
    simp only [Expr.same, Bool.and_eq_true, beq_iff_eq] at h
    rw [Term.eq_of_same h.1.1, h.1.2, eq_of_sameCalls h.2]

theorem Term.eq_of_same : ∀ {t u : Term}, t.same u → t = u := by
  intro t u h
  cases t <;> cases u <;> simp only [Term.same, Bool.and_eq_true, beq_iff_eq, reduceCtorEq] at h
  case text.text => rw [h]
  case path.path => rw [h]
  case relation.relation => rw [h.1.1, Expr.eq_of_same h.1.2, Expr.eq_of_same h.2]

theorem eq_of_sameCalls : ∀ {fs gs : List Call}, sameCalls fs gs → fs = gs
  | [], [], _ => rfl
  | .mk f [] :: fs, .mk g [] :: gs, h => by
    simp only [sameCalls, Bool.and_eq_true, beq_iff_eq] at h
    rw [h.1, eq_of_sameCalls h.2]
  | [], _ :: _, h => by simp [sameCalls] at h
  | _ :: _, [], h => by simp [sameCalls] at h
  | .mk f (_ :: _) :: fs, .mk g _ :: gs, h => by simp [sameCalls] at h
  | .mk f [] :: fs, .mk g (_ :: _) :: gs, h => by simp [sameCalls] at h

end

mutual

theorem Node.eq_of_same : ∀ {n m : Node}, n.same m → n = m := by
  intro n m h
  unfold Node.same at h
  split at h
  case h_1 s t => rw [beq_iff_eq.1 h]
  case h_2 a e b f =>
    simp only [Bool.and_eq_true, beq_iff_eq] at h
    rw [h.1, Expr.eq_of_same h.2]
  case h_3 o c k n e ns o' c' k' n' e' ns' =>
    simp only [Bool.and_eq_true, beq_iff_eq] at h
    obtain ⟨⟨⟨⟨⟨rfl, rfl⟩, rfl⟩, rfl⟩, he⟩, hns⟩ := h
    rw [Expr.eq_of_same he, eq_of_sameNodes hns]
  case h_4 bs c bs' c' =>
    simp only [Bool.and_eq_true, beq_iff_eq] at h
    rw [eq_of_sameBranches h.1, h.2]
  case h_5 => exact absurd h Bool.false_ne_true

theorem eq_of_sameNodes : ∀ {ns ms : List Node}, sameNodes ns ms → ns = ms
  | [], [], _ => rfl
  | n :: ns, m :: ms, h => by
    simp only [sameNodes, Bool.and_eq_true] at h
    rw [Node.eq_of_same h.1, eq_of_sameNodes h.2]
  | [], _ :: _, h => by simp [sameNodes] at h
  | _ :: _, [], h => by simp [sameNodes] at h

theorem eq_of_sameBranches :
    ∀ {bs cs : List (Trim × Expr × List Node)}, sameBranches bs cs → bs = cs
  | [], [], _ => rfl
  | (t, e, ns) :: bs, (u, f, ms) :: cs, h => by
    simp only [sameBranches, Bool.and_eq_true, beq_iff_eq] at h
    obtain ⟨⟨⟨rfl, he⟩, hns⟩, hbs⟩ := h
    rw [Expr.eq_of_same he, eq_of_sameNodes hns, eq_of_sameBranches hbs]
  | [], _ :: _, h => by simp [sameBranches] at h
  | _ :: _, [], h => by simp [sameBranches] at h

end

theorem eq_of_same {s t : Template} (h : same s t) : s = t := by
  obtain ⟨name, nodes, blocks, macros, imports⟩ := s
  obtain ⟨name', nodes', blocks', macros', imports'⟩ := t
  simp only [same, Bool.and_eq_true, beq_iff_eq, List.isEmpty_iff] at h
  obtain ⟨⟨⟨⟨⟨⟨⟨rfl, hnodes⟩, rfl⟩, rfl⟩, rfl⟩, rfl⟩, rfl⟩, rfl⟩ := h
  rw [eq_of_sameNodes hnodes]

end Schemata.Template
