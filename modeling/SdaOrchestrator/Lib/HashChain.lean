import Mathlib.Data.List.Induction
import Mathlib.Data.List.Chain

/-! Entries that record the hash of the entry before them. -/

namespace hash_chain

variable {α β η : Type*} {previous hash digest : α → η} {start : η} {entries rest : List α} {entry : α}

/-- The hash that the next entry records. -/
def head (hash : α → η) (start : η) (entries : List α) : η :=
  entries.foldl (fun _ entry => hash entry) start

@[simp] theorem head_nil : head hash start [] = start := rfl

@[simp] theorem head_concat : head hash start (entries ++ [entry]) = hash entry := by
  rw [head, List.foldl_append]
  rfl

/-- Every entry records the hash of the one before it and its own digest as its hash. -/
def Valid (previous hash digest : α → η) (start : η) : List α → Prop
  | [] => True
  | entry :: rest =>
    previous entry = start ∧ digest entry = hash entry ∧ Valid previous hash digest (hash entry) rest

theorem valid_append :
    Valid previous hash digest start (entries ++ rest) ↔
      Valid previous hash digest start entries ∧
        Valid previous hash digest (head hash start entries) rest := by
  induction entries generalizing start with
  | nil => simp [Valid]
  | cons entry entries ih =>
    have hhead : head hash start (entry :: entries) = head hash (hash entry) entries := rfl
    simp only [List.cons_append, Valid, ih, hhead, and_assoc]

/-- A chain is extended by an entry that links to its head. -/
theorem valid_concat :
    Valid previous hash digest start (entries ++ [entry]) ↔
      Valid previous hash digest start entries ∧
        previous entry = head hash start entries ∧ digest entry = hash entry := by
  rw [valid_append, Valid, Valid, and_true]

/-- A chain stays valid when its entries are read through a map that keeps their hashes. -/
theorem valid_map {previous' hash' digest' : β → η} {f : α → β}
    (hprevious : ∀ entry, previous' (f entry) = previous entry) (hhash : ∀ entry, hash' (f entry) = hash entry)
    (hdigest : ∀ entry, digest' (f entry) = digest entry) :
    Valid previous' hash' digest' start (entries.map f) ↔ Valid previous hash digest start entries := by
  induction entries generalizing start with
  | nil => rfl
  | cons entry entries ih =>
    rw [List.map_cons, Valid, Valid, ih, hprevious, hhash, hdigest]

/-- Neighbours in a valid chain are linked. -/
theorem Valid.linked (hvalid : Valid previous hash digest start entries) :
    entries.IsChain fun first second => previous second = hash first := by
  induction entries generalizing start with
  | nil => exact List.IsChain.nil
  | cons entry entries ih =>
    obtain ⟨-, -, hrest⟩ := hvalid
    cases entries with
    | nil => exact List.IsChain.singleton entry
    | cons second entries => exact List.IsChain.cons_cons hrest.1 (ih hrest)

/-- Where the digest tells contents apart and is never the start, the head of a chain
determines the contents of all its entries. -/
theorem content_eq_of_head_eq {content : α → β} {first second : List α}
    (hinjective : ∀ entry ∈ first, ∀ other ∈ second, digest entry = digest other →
      content entry = content other)
    (hprevious : ∀ entry other, content entry = content other → previous entry = previous other)
    (hstart : ∀ entry, digest entry ≠ start)
    (hfirst : Valid previous hash digest start first) (hsecond : Valid previous hash digest start second)
    (hhead : head hash start first = head hash start second) :
    first.map content = second.map content := by
  induction first using List.reverseRecOn generalizing second with
  | nil =>
    induction second using List.reverseRecOn with
    | nil => rfl
    | append_singleton second entry =>
      obtain ⟨-, -, hdigest⟩ := valid_concat.mp hsecond
      rw [head_nil, head_concat, ← hdigest] at hhead
      exact absurd hhead.symm (hstart entry)
  | append_singleton first entry ih =>
    obtain ⟨hfirst, hlink, hdigest⟩ := valid_concat.mp hfirst
    rw [head_concat, ← hdigest] at hhead
    induction second using List.reverseRecOn with
    | nil => exact absurd hhead (hstart entry)
    | append_singleton second other =>
      obtain ⟨hsecond, hlink', hdigest'⟩ := valid_concat.mp hsecond
      rw [head_concat, ← hdigest'] at hhead
      have hcontent := hinjective entry (by simp) other (by simp) hhead
      have hheads : head hash start first = head hash start second := by
        rw [← hlink, ← hlink']
        exact hprevious entry other hcontent
      have hrest := ih (fun entry hentry other hother =>
        hinjective entry (List.mem_append_left _ hentry) other (List.mem_append_left _ hother))
        hfirst hsecond hheads
      rw [List.map_append, List.map_append, hrest, List.map_singleton, List.map_singleton, hcontent]

end hash_chain
