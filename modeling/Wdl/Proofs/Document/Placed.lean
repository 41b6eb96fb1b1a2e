import Wdl.Proofs.Document.Links
import Wdl.Proofs.Parse.Layout

/-!
The places of nodes.

`Placed` says that the spans of the nodes of a document lie to each other as a layout says: parts
within what they are part of, and apart from the parts before them.  A new node keeps to the layout
if its span `Fits` below its parent, and then it has no twin there either.
-/

namespace Wdl
namespace Forest

/-- From the number `d` on, the spans of nodes keep to a layout.  Where parts are listed as they are
kept, they are kept in the order of their numbers. -/
structure Placed (l : Layout) (d : NodeId) (f : Forest) : Prop where
  within : ∀ p c qp qc, d ≤ p → c ∈ f.parts p → f.profile? p = some qp → f.profile? c = some qc →
    l.within qc.span qp.span
  apart : ∀ p a c qa qc, d ≤ p → a ∈ f.parts p → c ∈ f.parts p → a < c →
    f.profile? a = some qa → f.profile? c = some qc → l.apart qa.span qc.span
  kept : ∀ p q, d ≤ p → f.profile? p = some q → q.sortsParts = false →
    (f.parts p).Pairwise (· < ·)

/-- A span lies within that of the node `p` and apart from those of its parts. -/
structure Fits (l : Layout) (f : Forest) (p : NodeId) (s : Span) : Prop where
  within : ∀ q, f.profile? p = some q → l.within s q.span
  apart : ∀ c ∈ f.parts p, ∀ q, f.profile? c = some q → l.apart q.span s

theorem Fits.ne {l : Layout} {f : Forest} {p c : NodeId} {s : Span} {q : Profile}
    (h : Fits l f p s) (hc : c ∈ f.parts p) (hq : f.profile? c = some q) : q.span ≠ s :=
  l.ne_of_apart _ _ (h.apart c hc q hq)

theorem Fits.alike {l : Layout} {f g : Forest} {p : NodeId} {s : Span} (h : Fits l f p s)
    (hg : Alike f g) : Fits l g p s where
  within q hq := h.within q (hg.profile? p ▸ hq)
  apart c hc q hq := h.apart c (hg.parts p ▸ hc) q (hg.profile? c ▸ hq)

namespace Placed

variable {l : Layout} {d : NodeId} {f g : Forest}

theorem alike (h : Placed l d f) (hg : Alike f g) : Placed l d g where
  within p c qp qc hp hc hqp hqc := by
    rw [hg.parts] at hc
    rw [hg.profile?] at hqp hqc
    exact h.within p c qp qc hp hc hqp hqc
  apart p a c qa qc hp ha hc hlt hqa hqc := by
    rw [hg.parts] at ha hc
    rw [hg.profile?] at hqa hqc
    exact h.apart p a c qa qc hp ha hc hlt hqa hqc
  kept p q hp hq hsorts := by
    rw [hg.profile?] at hq
    rw [hg.parts]
    exact h.kept p q hp hq hsorts

/-- A new node that fits below its parent keeps to the layout. -/
theorem sprout {q : Profile} {parent : Option NodeId} (h : Placed l d f) (hl : Linked d f)
    (hs : Sprout f g q parent)
    (hfits : ∀ p, parent = some p → p < f.nextNode ∧ Fits l f p q.span) : Placed l d g := by
  have hne : parent ≠ some f.nextNode := fun heq => Nat.lt_irrefl _ (hfits _ heq).1
  have hold : ∀ {id q'}, id < f.nextNode → g.profile? id = some q' → f.profile? id = some q' := by
    intro id q' hid hq'
    rwa [hs.profile?, if_neg (Nat.ne_of_lt hid)] at hq'
  have hnew : ∀ {q'}, g.profile? f.nextNode = some q' → q' = q := by
    intro q' hq'
    rw [hs.profile?, if_pos rfl] at hq'
    exact (Option.some.inj hq').symm
  have hparent : ∀ {p c}, d ≤ p → c ∈ f.parts p → p < f.nextNode ∧ c < f.nextNode := by
    intro p c hp hc
    have hlt := hl.lt_of_part hp hc
    exact ⟨Nat.lt_trans (hl.parent_of_part p c hp hc).2 hlt, hlt⟩
  refine ⟨fun p c qp qc hp hc hqp hqc => ?_, fun p a c qa qc hp ha hc hlt hqa hqc => ?_,
    fun p qp hp hqp hsorts => ?_⟩
  · rcases (hs.mem_parts hne p c).mp hc with hc | ⟨hpar, rfl⟩
    · obtain ⟨hpn, hcn⟩ := hparent hp hc
      exact h.within p c qp qc hp hc (hold hpn hqp) (hold hcn hqc)
    · obtain ⟨hpn, hfit⟩ := hfits p hpar
      obtain rfl := hnew hqc
      exact hfit.within qp (hold hpn hqp)
  · rcases (hs.mem_parts hne p c).mp hc with hc | ⟨hpar, rfl⟩
    · obtain ⟨-, hcn⟩ := hparent hp hc
      rcases (hs.mem_parts hne p a).mp ha with ha | ⟨-, rfl⟩
      · exact h.apart p a c qa qc hp ha hc hlt (hold (hparent hp ha).2 hqa) (hold hcn hqc)
      · exact absurd hlt (Nat.not_lt_of_lt hcn)
    · rcases (hs.mem_parts hne p a).mp ha with ha | ⟨-, rfl⟩
      · obtain rfl := hnew hqc
        exact (hfits p hpar).2.apart a ha qa (hold (hparent hp ha).2 hqa)
      · exact absurd hlt (Nat.lt_irrefl _)
  · by_cases hpar : parent = some p
    · obtain ⟨hpn, -⟩ := hfits p hpar
      have hqp := hold hpn hqp
      rw [hs.parts_kept p qp hpar hqp hsorts]
      refine List.pairwise_append.mpr ⟨h.kept p qp hp hqp hsorts, List.pairwise_singleton _ _, ?_⟩
      intro a ha c hc
      rw [List.mem_singleton.mp hc]
      exact (hparent hp ha).2
    · by_cases hpn : p = f.nextNode
      · rw [hpn, hs.parts_new]
        exact .nil
      · rw [hs.parts_of_ne p hpn hpar]
        rw [hs.profile?, if_neg hpn] at hqp
        exact h.kept p qp hp hqp hsorts

/-- Where there are no nodes there is nothing out of place. -/
theorem of_alone (hparts : ∀ p, d ≤ p → f.parts p = []) : Placed l d f where
  within p c _ _ hp hc := by
    rw [hparts p hp] at hc
    exact absurd hc List.not_mem_nil
  apart p a _ _ _ hp ha := by
    rw [hparts p hp] at ha
    exact absurd ha List.not_mem_nil
  kept p _ hp _ _ := by
    rw [hparts p hp]
    exact .nil

end Placed
end Forest
end Wdl
