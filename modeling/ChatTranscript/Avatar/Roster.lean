import ChatTranscript.Text.Basic

/-!
# Fallback avatars

Senders without an avatar of their own take turns through a pool of images. A sender keeps the
image of the first turn.

## Main definitions

* `Avatar.Roster`: the pool, who has which image, and how many turns were taken.
* `Avatar.Roster.assign`: the image of a sender, by a new turn if there is none yet.
-/

namespace ChatTranscript

namespace Avatar

structure Roster where
  pool : List Text
  pool_ne_nil : pool ≠ []
  assigned : List (Text × Text)
  cursor : Nat

namespace Roster

def defaultPool : List Text := [
  "https://i.p-i.vip/30/20240920-66ed9a608c2cf.png".toList,
  "https://i.p-i.vip/30/20240920-66ed9b0655cba.png".toList,
  "https://i.p-i.vip/30/20240920-66ed9b18a56ee.png".toList,
  "https://i.p-i.vip/30/20240920-66ed9b2c199bf.png".toList,
  "https://i.p-i.vip/30/20240920-66ed9b3350ed1.png".toList,
  "https://i.p-i.vip/30/20240920-66ed9b5181630.png".toList]

/-- Nobody assigned yet; an empty pool stands for the default one. -/
def ofPool : List Text → Roster
  | [] => ⟨defaultPool, by simp [defaultPool], [], 0⟩
  | url :: pool => ⟨url :: pool, by simp, [], 0⟩

def get? (roster : Roster) (name : Text) : Option Text :=
  (roster.assigned.find? (·.1 == name)).map (·.2)

def contains (roster : Roster) (name : Text) : Bool := (roster.get? name).isSome

/-- The image whose turn it is. -/
def next (roster : Roster) : Text :=
  roster.pool.get ⟨roster.cursor % roster.pool.length,
    Nat.mod_lt _ (List.length_pos_iff.2 roster.pool_ne_nil)⟩

def assign (roster : Roster) (name : Text) : Text × Roster :=
  match roster.get? name with
  | some url => (url, roster)
  | none =>
    (roster.next,
      { roster with
        assigned := roster.assigned ++ [(name, roster.next)]
        cursor := roster.cursor + 1 })

end Roster

end Avatar

end ChatTranscript
