import Reconciler.Proofs.Resolution

/-!
# Two ways to resolve

A creation asks for the attachments to the networks of its order by their identifiers, and a reading
for those to the networks whose names are in the address book of the instance. The one takes the
first network under each identifier; the other goes through the listing, and of several networks with
one identifier the last counts. Where no identifier is listed twice the two find the same, so that a
reading sees what the creation before it saw.

## What is proved

* `find?_resolveByAddress`: what is found through an address book.
* `resolveByAddress_congr`: of an address book only the names matter.
* `resolveByAddress_eq_resolveById`: the two ways find the same.
-/

namespace Reconciler

section

variable {networks : List Network} {book : AddressBook} {id : InstanceId}

/-- What is found through an address book are the attachments to the networks it names. -/
theorem find?_resolveByAddress (nodup : (networks.map (·.id)).Nodup) {k : String}
    {a : NetworkAttachment} :
    (resolveByAddress networks book id).find? k = some a ↔
      ∃ n ∈ networks, book.contains n.name = true ∧ n.id = k ∧ n.attachmentOf id = some a := by
  have sub : ((networks.filter fun n => book.contains n.name).map (·.id)).Nodup :=
    nodup.sublist (List.filter_sublist.map _)
  rw [resolveByAddress, find?_attachmentsOn (attachmentOf_eq_of_nodup sub id)]
  simp only [List.mem_filter, and_assoc]

/-- **Of an address book only the names matter**, and not the addresses that it has under them. -/
theorem resolveByAddress_congr (networks : List Network) (id : InstanceId) {book' : AddressBook}
    (names : ∀ name, book'.contains name = book.contains name) :
    resolveByAddress networks book' id = resolveByAddress networks book id := by
  simp only [resolveByAddress, names]

end

/-- **The two ways find the same**, where no identifier is listed twice: to go by an address book is
to ask, in any order, for the networks that it names. The addresses in the book do not matter. -/
theorem resolveByAddress_eq_resolveById {networks : List Network}
    (nodup : (networks.map (·.id)).Nodup) (book : AddressBook) (id : InstanceId) {ks : List String}
    (named : ∀ k, k ∈ ks ↔ k ∈ (networks.filter fun n => book.contains n.name).map (·.id)) :
    resolveByAddress networks book id = resolveById networks ks id ∧
      ∀ book' : AddressBook, (∀ name, book'.contains name = book.contains name) →
        resolveByAddress networks book' id = resolveById networks ks id := by
  have agree : resolveByAddress networks book id = resolveById networks ks id := by
    refine IdMap.ext fun k => Option.ext fun a => ?_
    rw [find?_resolveByAddress nodup, find?_resolveById, named, List.mem_map]
    simp only [List.mem_filter]
    constructor
    · rintro ⟨n, hn, hname, rfl, ha⟩
      exact ⟨⟨n, ⟨hn, hname⟩, rfl⟩, n, find?_of_nodup nodup hn, ha⟩
    · rintro ⟨⟨n, ⟨hn, hname⟩, rfl⟩, m, hm, ha⟩
      rw [find?_of_nodup nodup hn, Option.some.injEq] at hm
      exact ⟨n, hn, hname, rfl, hm ▸ ha⟩
  exact ⟨agree, fun book' names => (resolveByAddress_congr networks id names).trans agree⟩

/-- Two networks with one name and one with another, and a port of an instance on the first two. -/
def namesakes : List Network :=
  let port (portId subnetId : String) : SubnetServer :=
    { id := "vm", ips := [{ ip := "10.0.0.1", portId, subnetId }] }
  [{ id := "net-b", name := "lan", subnets := [{ id := "sub-b", servers := [port "p2" "sub-b"] }] },
    { id := "net-a", name := "lan", subnets := [{ id := "sub-a", servers := [port "p1" "sub-a"] }] },
    { id := "net-c", name := "wan", subnets := [{ id := "sub-c" }] }]

/-- The book has an address of the instance that is on no record, and the networks are asked for in
another order than that of the listing. -/
theorem resolveByAddress_eq_resolveById_namesakes :
    let book : AddressBook := .ofList [("lan", [{ addr := "192.168.0.1" }])]
    (namesakes.map (·.id)).Nodup ∧
      (∀ k, k ∈ ["net-a", "net-b"] ↔
        k ∈ (namesakes.filter fun n => book.contains n.name).map (·.id)) ∧
      resolveByAddress namesakes book "vm" = resolveById namesakes ["net-a", "net-b"] "vm" ∧
      (resolveByAddress namesakes book "vm").values.map (·.portId) = ["p1", "p2"] := by
  intro book
  have nodup : (namesakes.map (·.id)).Nodup := by decide
  have listed : (namesakes.filter fun n => book.contains n.name).map (·.id) = ["net-b", "net-a"] := by
    decide
  have named (k : String) : k ∈ ["net-a", "net-b"] ↔
      k ∈ (namesakes.filter fun n => book.contains n.name).map (·.id) := by
    rw [listed]
    simp [or_comm]
  exact ⟨nodup, named, (resolveByAddress_eq_resolveById nodup book "vm" named).1, by decide⟩

-- With an identifier that is listed twice the first network counts in one way, the last in the other.
example :
    let twice : List Network :=
      [{ id := "net-a", name := "lan" }, { id := "net-a", name := "lan", subnets := [{}] }]
    resolveByAddress twice (.ofList [("lan", [])]) "vm" ≠ resolveById twice ["net-a"] "vm" := by
  decide

end Reconciler
