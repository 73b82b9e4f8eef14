import NamespaceBackup.Machine.Basic
import NamespaceBackup.Machine.Membership
import NamespaceBackup.Proofs.Activity

/-!
# Membership commands as text

A command that changes the membership of a machine is one line of text, in which the machine comes
last and its address stands in front of a blank. The text of an address has no blank, so a command
tells which machine it is about and what happens to it.

## Main definitions

* `Membership.Concerns`: a text that changes the membership of a machine
* `Membership.Orders`, `Membership.Settles`: a question that orders such a change, and an exchange
  after which nothing is left to do for it
* `Membership.Out`: a machine that has left its cluster and has not joined it again

## Main results

* `Address.blank_notMem_text`: the text of an address has no blank
* `Membership.Concerns.unique`: a command changes the membership of one machine in one way
* `Membership.out_concat`: who is out after one more exchange
* `Membership.apply_ensures`: a change of a machine's membership settles what its outcome says
-/

namespace NamespaceBackup

/-! ## The text of an address -/

namespace Address

theorem blank_notMem_toDigits {base : Nat} (hbase : 1 < base) (n : Nat) :
    ' ' ∉ Nat.toDigits base n := by
  induction n using Nat.strongRecOn with
  | ind n ih =>
    rw [Nat.toDigits_eq_if hbase]
    split
    case isTrue => simp
    case isFalse h =>
      have hlt : n / base < n := Nat.div_lt_self (by omega) hbase
      simpa using ih _ hlt

theorem blank_notMem_dotted (a b c d : Nat) : ' ' ∉ (dotted a b c d).toList := by
  have hdigits (n : Nat) : ' ' ∉ (toString n).toList := by
    simpa using blank_notMem_toDigits (by omega) n
  simp [dotted, hdigits, -Nat.toString_eq_repr]

theorem blank_notMem_joined (groups : List Nat) : ' ' ∉ (joined groups).toList := by
  rw [joined, String.toList_intercalate]
  induction groups with
  | nil => simp
  | cons g rest ih =>
    have hg : ' ' ∉ Nat.toDigits 16 g := blank_notMem_toDigits (by omega) g
    cases rest with
    | nil => simpa using hg
    | cons g' rest => simpa [hg] using ih

/-- The text of an address is one word. -/
theorem blank_notMem_text (a : Address) : ' ' ∉ a.text.toList := by
  cases a with
  | v4 a b c d => exact blank_notMem_dotted a b c d
  | v6 groups =>
    simp only [text, groupsText]
    split
    · simp [blank_notMem_dotted]
    · split <;> simp [blank_notMem_joined]

end Address

theorem MachineSet.blank_notMem_address {set : Resource} {machine network address : String}
    (h : MachineSet.address set machine network = .ok address) : ' ' ∉ address.toList := by
  simp only [MachineSet.address] at h
  split at h
  · cases h
  · split at h
    · cases h
      exact Address.blank_notMem_text _
    · cases h

namespace Membership

/-! ## The machine of a command -/

/-- A text that a change of a machine's membership is made by, whatever the machine's address. -/
def Concerns (user : String) (change : Change) (node text : String) : Prop :=
  ∃ address : String, ' ' ∉ address.toList ∧ text = command user address change node

theorem concerns_command {address : String} (h : ' ' ∉ address.toList) (user : String)
    (change : Change) (node : String) :
    Concerns user change node (command user address change node) :=
  ⟨address, h, rfl⟩

/-- Two texts with a separator have the same parts in front of it and behind it. -/
theorem append_cons_inj {sep : Char} {front front' back back' : List Char} (h : sep ∉ front)
    (h' : sep ∉ front') (heq : front ++ sep :: back = front' ++ sep :: back') :
    front = front' ∧ back = back' := by
  induction front generalizing front' with
  | nil =>
    cases front' with
    | nil => exact ⟨rfl, (List.cons.inj heq).2⟩
    | cons c front' => exact absurd (List.cons.inj heq).1 fun hc => h' (hc ▸ List.mem_cons_self)
  | cons c front ih =>
    cases front' with
    | nil => exact absurd (List.cons.inj heq).1 fun hc => h (hc ▸ List.mem_cons_self)
    | cons c' front' =>
      obtain ⟨rfl, hrest⟩ := List.cons.inj heq
      obtain ⟨rfl, rfl⟩ := ih (fun hc => h (List.mem_cons_of_mem _ hc))
        (fun hc => h' (List.mem_cons_of_mem _ hc)) hrest
      exact ⟨rfl, rfl⟩

theorem toList_command (user address : String) (change : Change) (node : String) :
    (command user address change node).toList =
      "ssh ".toList ++ user.toList ++ "@".toList ++
        (address.toList ++ ' ' :: ("sudo pcs cluster ".toList ++
          (change.name.toList ++ ' ' :: node.toList))) := by
  simp [command]

/-- A command changes the membership of one machine in one way. -/
theorem Concerns.unique {user text node node' : String} {change change' : Change}
    (h : Concerns user change node text) (h' : Concerns user change' node' text) :
    change = change' ∧ node = node' := by
  obtain ⟨address, hblank, rfl⟩ := h
  obtain ⟨address', hblank', heq⟩ := h'
  -- The address ends at its first blank, and the name of the change at the first one after that.
  have hlist := congrArg String.toList heq
  rw [toList_command, toList_command, List.append_cancel_left_eq] at hlist
  obtain ⟨-, hrest⟩ := append_cons_inj hblank hblank' hlist
  rw [List.append_cancel_left_eq] at hrest
  have hword (c : Change) : ' ' ∉ c.name.toList := by cases c <;> decide
  obtain ⟨hname, hnode⟩ := append_cons_inj (hword change) (hword change') hrest
  refine ⟨?_, String.toList_inj.1 hnode⟩
  cases change <;> cases change' <;> first | rfl | exact absurd hname (by decide)

/-! ## Who is out -/

/-- A question that orders a change of a machine's membership. -/
def Orders (user : String) (change : Change) (node : String) (question : Query) : Prop :=
  ∃ ns text, question = .call (.runCommand ns text) ∧ Concerns user change node text

/-- An exchange after which nothing is left to do for a change: its command succeeded, or failed in
a way that is passed over. -/
inductive Settles (user : String) (change : Change) (node : String) : Exchange → Prop
  | done {ns text : String} {output : CommandOutput} (hconcerns : Concerns user change node text)
    (hdone : conclude output = .ok true) :
    Settles user change node
      ⟨.call (.runCommand ns text), (.ok output : Except Failure CommandOutput)⟩

/-- A machine has left its cluster, and has not joined it again since. -/
def Out (user node : String) (journal : List Exchange) : Prop :=
  ∃ before stop after, journal = before ++ stop :: after ∧ Settles user .stop node stop ∧
    ∀ exchange ∈ after, ¬ Settles user .start node exchange

variable {user node : String} {journal : List Exchange} {exchange : Exchange}

theorem Settles.orders {change : Change} (h : Settles user change node exchange) :
    Orders user change node exchange.1 := by
  cases h with
  | done hconcerns => exact ⟨_, _, rfl, hconcerns⟩

theorem not_orders_of_ne {change : Change} {question : Query}
    (h : ∀ ns text, question ≠ .call (.runCommand ns text)) :
    ¬ Orders user change node question := by
  rintro ⟨ns, text, heq, -⟩
  exact h ns text heq

theorem Orders.unique {node' : String} {change change' : Change} {question : Query}
    (h : Orders user change node question) (h' : Orders user change' node' question) :
    change = change' ∧ node = node' := by
  obtain ⟨ns, text, rfl, hconcerns⟩ := h
  obtain ⟨ns', text', heq, hconcerns'⟩ := h'
  cases heq
  exact hconcerns.unique hconcerns'

@[simp] theorem out_nil : ¬ Out user node [] := by
  rintro ⟨before, stop, after, heq, -⟩
  simp at heq

/-- Who is out after one more exchange: who leaves with it, and who was out and does not join. -/
theorem out_concat : Out user node (journal ++ [exchange]) ↔
    Settles user .stop node exchange ∨
      Out user node journal ∧ ¬ Settles user .start node exchange := by
  constructor
  · rintro ⟨before, stop, after, heq, hstop, hafter⟩
    -- The new exchange is the one by which the machine left, or it comes after that one.
    rcases List.eq_nil_or_concat after with rfl | ⟨after, last, rfl⟩
    · obtain ⟨-, hlast⟩ := List.append_inj' heq rfl
      cases hlast
      exact .inl hstop
    · rw [List.concat_eq_append, ← List.cons_append, ← List.append_assoc] at heq
      obtain ⟨hjournal, hlast⟩ := List.append_inj' heq rfl
      cases hlast
      exact .inr ⟨⟨before, stop, after, hjournal, hstop, fun e he => hafter e (by simp [he])⟩,
        hafter exchange (by simp)⟩
  · rintro (hstop | ⟨⟨before, stop, after, rfl, hstop, hafter⟩, hstart⟩)
    · exact ⟨journal, exchange, [], rfl, hstop, by simp⟩
    · refine ⟨before, stop, after ++ [exchange], by simp, hstop, fun e he => ?_⟩
      rcases List.mem_append.1 he with he | he
      · exact hafter e he
      · rwa [List.mem_singleton.1 he]

/-- A machine that has left is out if it was never told to join. -/
theorem out_of_mem (hstop : Settles user .stop node exchange) (hmem : exchange ∈ journal)
    (hstart : ∀ e ∈ journal, ¬ Orders user .start node e.1) : Out user node journal := by
  obtain ⟨before, after, rfl⟩ := List.append_of_mem hmem
  exact ⟨before, exchange, after, rfl, hstop, fun e he h => hstart e (by simp [he]) h.orders⟩

/-- A change of a machine's membership is one exchange, which settles the change if the outcome says
so, and settles nothing otherwise. -/
theorem apply_ensures {σ ω : Type} {T : Terms Query Query.Answer ω} {s : σ} {w : ω}
    {settings : Settings} {ns address machine : String} {change : Change}
    (hblank : ' ' ∉ address.toList)
    (hasks : T.asks w
      (.call (.runCommand ns (command settings.adminUser address change machine)))) :
    Activity.Ensures T (apply settings ns address change machine) s w fun outcome s' v =>
      s' = s ∧ ∃ exchange, T.answers w exchange v ∧
        exchange.1 = .call (.runCommand ns (command settings.adminUser address change machine)) ∧
        (outcome = .ok true → Settles settings.adminUser change machine exchange) ∧
        (outcome ≠ .ok true →
          ∀ node change', ¬ Settles settings.adminUser change' node exchange) := by
  have hconcerns := concerns_command hblank settings.adminUser change machine
  refine Activity.ensures_call_bind.2 ⟨hasks, ?_⟩
  intro (answer : Except Failure CommandOutput) v hanswer
  cases answer with
  | error failure =>
    refine ⟨rfl, _, hanswer, rfl, fun houtcome => ?_, fun _ node change' hsettles => ?_⟩
    · cases houtcome
    · cases hsettles
  | ok output =>
    refine Activity.then_ok.2 (Activity.ensures_ofExcept.2 ?_)
    refine ⟨rfl, _, hanswer, rfl, fun hdone => .done hconcerns hdone, ?_⟩
    intro hnot node change' hsettles
    cases hsettles with
    | done _ hdone => exact hnot hdone

end Membership

end NamespaceBackup
