import Worksheet.Grid

namespace Worksheet

namespace Grid

inductive Request where
  | put (address : Address) (text : String)
  | setPolicy (policy : Policy)
  | recalculate
  | ensure
deriving DecidableEq

def perform (grid : Grid) : Request → Grid
  | .put address text =>
    match grid.put? address text with
    | some (_, written) => written
    | none => grid
  | .setPolicy policy => grid.setPolicy policy
  | .recalculate => grid.recalculate.2
  | .ensure => grid.ensure.2

def performAll (grid : Grid) (requests : List Request) : Grid := requests.foldl perform grid

theorem perform_put_inside {grid : Grid} {address : Address} {slot : Slot}
    (place : address.slot? = some slot) (text : String) :
    grid.perform (.put address text) = grid.write slot text := by
  simp only [perform, put?, place, Option.map_some]

theorem perform_put_outside {grid : Grid} {address : Address} (place : address.slot? = none)
    (text : String) : grid.perform (.put address text) = grid := by
  simp only [perform, put?, place, Option.map_none]

end Grid

end Worksheet
