import DenseKron.Proofs.SessionHistory
import Mathlib.Data.List.Perm.Subperm

/-!
# Honest sessions

Any receipt may be released on any ledger, and what a ledger has outstanding is then whatever the
calls have made of it: the bytes of the receipts that it issued, without those of the receipts that
it took back, its own or not.

A session is honest if every receipt that is released is released on the ledger that issued it. It
cannot be released twice, since the session gives it up with the first release. Then the receipts
that are still held and those that were returned are different ones of those that were issued
(`Books.Covers`), and this is kept up by every honest command. What is held is therefore
outstanding, under its id, and no release can be refused, in whatever order the receipts come back;
and when all of them have, nothing is outstanding.
-/

namespace DenseKron

open Function
open List (Sublist Subperm)

/-! ### Receipts among others -/

namespace Receipt

variable {receipts receipts' : List Receipt}

theorem bytes_le_of_sublist (h : Sublist receipts receipts') :
    bytes receipts ≤ bytes receipts' := by
  induction h with
  | slnil => exact Nat.le_refl _
  | cons r _ ih => exact Nat.le_add_left_of_le ih
  | cons_cons r _ ih => exact Nat.add_le_add_left ih r.size

theorem bytes_le_of_subperm (h : Subperm receipts receipts') :
    bytes receipts ≤ bytes receipts' := by
  obtain ⟨_, hperm, hsub⟩ := h
  rw [bytes, ← (hperm.map size).sum_nat]
  exact bytes_le_of_sublist hsub

theorem bytesUnder_le_of_subperm (h : Subperm receipts receipts') (id : Int) :
    bytesUnder id receipts ≤ bytesUnder id receipts' :=
  bytes_le_of_subperm (h.filter _)

end Receipt

namespace Books

variable {b : Books} {l : Ledger} {held held' : List Receipt} {r : Receipt}

/-- **Cover.** The receipts that are held, and those that were returned, are different ones of those
that were issued. -/
def Covers (b : Books) (held : List Receipt) : Prop := Subperm (held ++ b.returned) b.issued

theorem covers_new : Covers {} [] := .refl []

theorem Covers.of_sublist (hc : b.Covers held) (hsub : Sublist held' held) : b.Covers held' :=
  (hsub.append_right b.returned).subperm.trans hc

theorem Covers.recorded (hc : b.Covers held) (size : Nat) (id : Int) :
    (b.enter (.record size id)).Covers (⟨id, size⟩ :: held) :=
  ((List.subperm_cons _).2 hc).trans (List.perm_append_singleton _ b.issued).symm.subperm

theorem Covers.released (hc : b.Covers held) (hr : Subperm (r :: held') held) :
    (b.enter (.release r)).Covers held' := by
  -- the receipt is one of those that were returned instead of one that is held
  have hperm : (held' ++ (b.returned ++ [r])).Perm (r :: held' ++ b.returned) := by
    rw [← List.append_assoc]
    exact List.perm_append_singleton r _
  exact (hperm.subperm.trans ((List.subperm_append_right _).2 hr)).trans hc

/-- A ledger can take back what is covered. -/
theorem Covers.admitted (hc : b.Covers held) (hb : Kept l b) (hr : r ∈ held) :
    (Dealing.release r).Admitted l := by
  -- next to all that were returned, the receipt is one more of those that were issued
  have hsub : Subperm (b.returned ++ [r]) b.issued := by
    refine (List.perm_append_comm.subperm.trans ?_).trans hc
    exact ((List.singleton_sublist.2 hr).append_right b.returned).subperm
  have hbytes := Receipt.bytesUnder_le_of_subperm hsub r.id
  rw [Receipt.bytesUnder_concat, if_pos rfl, ← hb.outstanding_eq] at hbytes
  change r.size ≤ l.outstanding r.id
  omega

/-- **Settled books.** Every receipt that was issued has come back. -/
def Settled (b : Books) : Prop := Subperm b.issued b.returned

theorem Settled.total_eq_zero (hs : b.Settled) (hb : Kept l b) : l.total = 0 := by
  have hbytes := Receipt.bytes_le_of_subperm hs
  rw [← hb.total_eq] at hbytes
  omega

theorem Settled.outstanding_eq_zero (hs : b.Settled) (hb : Kept l b) (id : Int) :
    l.outstanding id = 0 := by
  have hbytes := Receipt.bytesUnder_le_of_subperm hs id
  rw [← hb.outstanding_eq] at hbytes
  omega

end Books

/-! ### Receipts that are held -/

/-- The receipts in a list that have a given issuer. -/
def heldOf (issuer : String → Option String) (x : String) (receipts : List (String × Receipt)) :
    List Receipt :=
  (receipts.filter fun e => issuer e.1 = some x).map Prod.snd

section Held

variable {issuer issuer' : String → Option String} {x t : String} {r : Receipt}
  {receipts : List (String × Receipt)}

theorem heldOf_sublist (hi : ∀ n, issuer' n = some x → issuer n = some x) :
    Sublist (heldOf issuer' x receipts) (heldOf issuer x receipts) := by
  refine (List.monotone_filter_right receipts fun e he => ?_).map Prod.snd
  exact decide_eq_true (hi e.1 (of_decide_eq_true he))

theorem heldOf_forget_sublist (z : Option String) :
    Sublist (heldOf (update issuer t z) x (receipts.filter (·.1 != t)))
      (heldOf issuer x receipts) := by
  unfold heldOf
  rw [List.filter_filter]
  refine (List.monotone_filter_right receipts fun e he => ?_).map Prod.snd
  obtain ⟨hissuer, hname⟩ := Bool.and_eq_true_iff.1 he
  rwa [update_of_ne (bne_iff_ne.1 hname)] at hissuer

theorem heldOf_cons_of_eq (ht : issuer t = some x) :
    heldOf issuer x ((t, r) :: receipts) = r :: heldOf issuer x receipts := by
  rw [heldOf, List.filter_cons_of_pos (by simpa using ht), List.map_cons]
  rfl

theorem heldOf_cons_of_ne (ht : issuer t ≠ some x) :
    heldOf issuer x ((t, r) :: receipts) = heldOf issuer x receipts := by
  rw [heldOf, List.filter_cons_of_neg (by simpa using ht)]
  rfl

theorem heldOf_append (receipts receipts' : List (String × Receipt)) :
    heldOf issuer x (receipts ++ receipts') =
      heldOf issuer x receipts ++ heldOf issuer x receipts' := by
  rw [heldOf, List.filter_append, List.map_append]
  rfl

/-- Taking a receipt away takes away no other. -/
theorem heldOf_release_subperm (hlookup : receipts.lookup t = some r) (ht : issuer t = some x)
    (z : Option String) :
    Subperm (r :: heldOf (update issuer t z) x (receipts.filter (·.1 != t)))
      (heldOf issuer x receipts) := by
  -- the list may have other receipts of that name behind the first, and they are taken away as well
  obtain ⟨front, back, rfl, -⟩ := List.lookup_eq_some_iff.1 hlookup
  have hfilter :
      (front ++ (t, r) :: back).filter (·.1 != t) = (front ++ back).filter (·.1 != t) := by
    rw [List.filter_append, List.filter_append, List.filter_cons_of_neg (by simp)]
  have hheld : (heldOf issuer x (front ++ (t, r) :: back)).Perm
      (r :: heldOf issuer x (front ++ back)) := by
    rw [heldOf_append, heldOf_append, heldOf_cons_of_eq ht]
    exact List.perm_middle
  rw [hfilter]
  exact ((List.subperm_cons r).2 (heldOf_forget_sublist z).subperm).trans hheld.symm.subperm

theorem mem_heldOf (hlookup : receipts.lookup t = some r) (ht : issuer t = some x) :
    r ∈ heldOf issuer x receipts := by
  obtain ⟨front, back, rfl, -⟩ := List.lookup_eq_some_iff.1 hlookup
  rw [heldOf_append, heldOf_cons_of_eq ht]
  exact List.mem_append_right _ List.mem_cons_self

end Held

/-! ### Honest commands -/

namespace Chronicle

variable {h h' : Chronicle} {x t : String} {r : Receipt} {c : Command}

/-- The receipts that are held of a ledger. -/
def held (h : Chronicle) (x : String) : List Receipt := heldOf h.issuer x h.session.receipts

/-- The books of every ledger cover what is held of it. -/
def Covered (h : Chronicle) : Prop := ∀ x, (h.books x).Covers (h.held x)

/-- A command is honest if it releases no receipt on another ledger than that which issued it. -/
def HonestNext (h : Chronicle) : Command → Prop
  | .release x t => ∀ r, h.session.receipt? t = some r → h.issuer t = some x
  | _ => True

theorem Covered.admitted (hc : h.Covered) (hs : h.Sound) (ht : h.session.receipt? t = some r)
    (hissuer : h.issuer t = some x) : (Dealing.release r).Admitted (h.session.ledger x) :=
  (hc x).admitted (hs x) (mem_heldOf ht hissuer)

/-- Nothing is held of a ledger that is replaced. -/
theorem Covered.revoke (hc : h.Covered) {b : Books} (hb : b.Covers []) (x y : String) :
    (update h.books x b y).Covers (heldOf (h.revoke x) y h.session.receipts) := by
  by_cases hy : y = x
  -- the ledger itself: none of its receipts is held any more
  · subst hy
    have hnone : heldOf (h.revoke y) y h.session.receipts = [] := by
      rw [heldOf, List.map_eq_nil_iff, List.filter_eq_nil_iff]
      intro e _
      simp [Chronicle.revoke]
    rw [update_self, hnone]
    exact hb
  -- any other ledger: what is held of it was held before
  · rw [update_of_ne hy]
    refine (hc y).of_sublist (heldOf_sublist fun n hn => ?_)
    unfold Chronicle.revoke at hn
    split at hn
    · cases hn
    · exact hn

theorem Covered.move (hc : h.Covered) (hs : h.Sound) (hhonest : h.HonestNext c) (hm : Move h c h') :
    h'.Covered := by
  intro y
  cases hm with
  | @recorded x t size id hd =>
    -- the old receipt of that name, if there was one, is lost
    have hkept := (hc y).of_sublist (heldOf_forget_sublist (t := t) (some x))
    by_cases hy : y = x
    -- the ledger that recorded has one more receipt issued and one more held
    · subst hy
      change (update h.books y _ y).Covers (heldOf _ y ((t, _) :: _))
      rw [update_self, heldOf_cons_of_eq (update_self ..)]
      exact hkept.recorded size id
    · have hother : update h.issuer t (some x) t ≠ some y := by
        rw [update_self]
        exact fun heq => hy (Option.some.inj heq).symm
      change (update h.books x _ y).Covers (heldOf _ y ((t, _) :: _))
      rw [update_of_ne hy, heldOf_cons_of_ne hother]
      exact hkept
  -- a recording that was stopped leaves the chronicle as it was
  | stopped => exact hc y
  | @released x t r ht hd =>
    by_cases hy : y = x
    -- by honesty the ledger that took the receipt back is the one that it was held of
    · subst hy
      change (update h.books y _ y).Covers (heldOf _ y _)
      rw [update_self]
      exact (hc y).released (heldOf_release_subperm ht (hhonest r ht) none)
    · change (update h.books x _ y).Covers (heldOf _ y _)
      rw [update_of_ne hy]
      exact (hc y).of_sublist (heldOf_forget_sublist none)
  | @refused x t r ht hd => exact absurd (hc.admitted hs ht (hhonest r ht)) hd
  -- a name without a receipt is held of no ledger, before and after
  | @missing x t ht =>
    refine (hc y).of_sublist (heldOf_sublist fun n hn => ?_)
    change update h.issuer t none n = some y at hn
    by_cases hname : n = t
    · subst hname
      rw [update_self] at hn
      cases hn
    · rwa [update_of_ne hname] at hn
  | @reset x => exact hc.revoke Books.covers_new x y
  | @copied x z => exact hc.revoke ((hc x).of_sublist (List.nil_sublist _)) z y

end Chronicle

/-! ### Honest sessions -/

/-- **Honest sessions.** Every receipt that is released is released on the ledger that issued it. -/
def Session.Honest (commands : List Command) : Prop :=
  ∀ front c back, commands = front ++ c :: back → (Chronicle.after front).HonestNext c

theorem Session.honest_nil : Session.Honest [] := by
  intro front c back heq
  exact absurd heq.symm (List.append_ne_nil_of_right_ne_nil front (List.cons_ne_nil c back))

theorem Session.honest_concat_iff {commands : List Command} {c : Command} :
    Session.Honest (commands ++ [c]) ↔
      Session.Honest commands ∧ (Chronicle.after commands).HonestNext c := by
  constructor
  · intro hh
    refine ⟨fun front d back heq => hh front d (back ++ [c]) ?_, hh commands c [] rfl⟩
    rw [heq, List.append_assoc, List.cons_append]
  · rintro ⟨hh, hnext⟩ front d back heq
    -- the command is the last one, or one of those before it
    rcases List.eq_nil_or_concat back with rfl | ⟨back, last, rfl⟩
    · obtain ⟨rfl, hlast⟩ := List.append_inj' heq rfl
      cases hlast
      exact hnext
    · rw [List.concat_eq_append, ← List.cons_append, ← List.append_assoc] at heq
      exact hh front d back (List.append_inj' heq rfl).1

theorem Chronicle.covered_after {commands : List Command} (hh : Session.Honest commands) :
    (Chronicle.after commands).Covered := by
  -- on the last command, which finds the invariants of those before it
  induction commands using List.reverseRecOn with
  | nil => exact fun _ => Books.covers_new
  | append_singleton commands c ih =>
    obtain ⟨hh, hnext⟩ := Session.honest_concat_iff.1 hh
    have hs := sound_after commands
    rw [after_concat]
    exact (ih hh).move hs hnext (move_next hs c)

theorem Session.Honest.of_append {commands commands' : List Command}
    (hh : Session.Honest (commands ++ commands')) : Session.Honest commands := by
  intro front c back heq
  refine hh front c (back ++ commands') ?_
  rw [heq, List.append_assoc, List.cons_append]

/-- **The law of the books.** After any commands, what a ledger has outstanding under an id, and its
total, are the bytes that it issued without those that it took back.

In an honest session, what is held of a ledger and what came back to it are different ones of the
receipts that it issued, no release is refused at any point, and once all of its receipts have come
back, in whatever order, a ledger has nothing outstanding and nothing to report. -/
theorem sessions_obey_their_books (commands : List Command) :
    (∀ x id, (((Session.run commands).state.ledger x).outstanding id : Int) =
      (Receipt.bytesUnder id ((Chronicle.after commands).books x).issued : Int) -
        Receipt.bytesUnder id ((Chronicle.after commands).books x).returned) ∧
    (∀ x, (((Session.run commands).state.ledger x).total : Int) =
      (Receipt.bytes ((Chronicle.after commands).books x).issued : Int) -
        Receipt.bytes ((Chronicle.after commands).books x).returned) ∧
    (Session.Honest commands →
      (∀ x, ((Chronicle.after commands).books x).Covers ((Chronicle.after commands).held x)) ∧
      (∀ front x t back r, commands = front ++ .release x t :: back →
        (Session.run front).state.receipt? t = some r →
        ∃ s, Session.step (.release x t) (Session.run front) = .ok none s) ∧
      ∀ x, ((Chronicle.after commands).books x).Settled →
        ((Session.run commands).state.ledger x).total = 0 ∧
        (∀ id, ((Session.run commands).state.ledger x).outstanding id = 0) ∧
        ((Session.run commands).state.ledger x).report = .ok none) := by
  -- the session of the chronicle is the one that was run
  have hkept : ∀ x, Books.Kept ((Session.run commands).state.ledger x)
      ((Chronicle.after commands).books x) := by
    rw [← Chronicle.run_after]
    exact Chronicle.sound_after commands
  refine ⟨fun x id => ?_, fun x => ?_, fun hh => ⟨Chronicle.covered_after hh, ?_, fun x hx => ?_⟩⟩
  · have hlaw := (hkept x).outstanding_eq id
    omega
  · have hlaw := (hkept x).total_eq
    omega
  · rintro front x t back r rfl ht
    have hnext := hh front (.release x t) back rfl
    have hs := Chronicle.sound_after front
    rw [← Chronicle.run_after] at ht ⊢
    -- the receipt is held, and by the cover the ledger has its bytes outstanding
    have hd := (Chronicle.covered_after hh.of_append).admitted hs ht (hnext r ht)
    exact ⟨_, Session.step_release_of_le ht (hs x).balanced hd⟩
  · have htotal := hx.total_eq_zero (hkept x)
    refine ⟨htotal, hx.outstanding_eq_zero (hkept x), ?_⟩
    rw [Ledger.report, if_pos htotal]

/-- Two ledgers, and receipts that come back in the order in which they were issued. -/
theorem sessions_obey_their_books_two_ledgers :
    ∃ front commands, front = [Command.record "a" 8 1 "r", .record "b" 5 1 "s"] ∧
      commands = front ++ [.release "a" "r", .release "b" "s"] ∧ Session.Honest commands ∧
      ((Session.run front).state.ledger "a").outstanding 1 = 8 ∧
      (∃ s, Session.step (.release "a" "r") (Session.run front) = .ok none s) ∧
      ((Session.run commands).state.ledger "a").total = 0 ∧
      ((Session.run commands).state.ledger "a").report = .ok none := by
  let front : List Command := [] ++ [.record "a" 8 1 "r"] ++ [.record "b" 5 1 "s"]
  -- each of the two releases names the ledger that issued its receipt
  have hhonest : Session.Honest (front ++ [.release "a" "r"] ++ [.release "b" "s"]) := by
    simp only [front, Session.honest_concat_iff]
    refine ⟨⟨⟨⟨Session.honest_nil, trivial⟩, trivial⟩, fun r _ => ?_⟩, fun r _ => ?_⟩
    · decide +kernel
    · decide +kernel
  have hbooks : (Chronicle.after (front ++ [.release "a" "r"] ++ [.release "b" "s"])).books "a" =
      ⟨[⟨1, 8⟩], [⟨1, 8⟩]⟩ := by
    decide +kernel
  have hsettled : ((Chronicle.after (front ++ [.release "a" "r"] ++ [.release "b" "s"])).books
      "a").Settled := by
    rw [hbooks]
    exact .refl _
  obtain ⟨-, -, hlaw⟩ :=
    sessions_obey_their_books (front ++ [.release "a" "r"] ++ [.release "b" "s"])
  obtain ⟨-, hreleases, hsettles⟩ := hlaw hhonest
  obtain ⟨htotal, -, hreport⟩ := hsettles "a" hsettled
  exact ⟨front, _, rfl, rfl, hhonest, by decide +kernel,
    hreleases front "a" "r" [.release "b" "s"] ⟨1, 8⟩ rfl (by decide +kernel), htotal, hreport⟩

end DenseKron
