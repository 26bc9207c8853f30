import Mathlib.Data.Nat.Notation

/-!
Contract: an image view, as far as the image it has been told to show.

Owns the bundled image that is set at once, the URL that SDWebImage is loading or has
loaded for the view, and the number of its gesture recognizers. `sd_setImage` cancels
the load before it and puts up the placeholder; an assignment to `image` cancels nothing,
so an image that is still on its way replaces what was assigned.

Does not own when an image arrives.
-/

set_option autoImplicit false

namespace Familog.UIKit

/-- An image view, with bundled images by name. -/
structure ImageView (Url : Type*) where
  image : Option String
  sd_imageURL : Option Url
  gestureRecognizers : ℕ
deriving DecidableEq

namespace ImageView

variable {Url : Type*}

/-- `sd_setImage(with:placeholderImage:)`; without a URL the placeholder stays. -/
def sd_setImage (view : ImageView Url) (url : Option Url) (placeholderImage : Option String) :
    ImageView Url :=
  { view with image := placeholderImage, sd_imageURL := url }

def setImage (view : ImageView Url) (image : Option String) : ImageView Url :=
  { view with image := image }

def addGestureRecognizer (view : ImageView Url) : ImageView Url :=
  { view with gestureRecognizers := view.gestureRecognizers + 1 }

end ImageView

end Familog.UIKit
