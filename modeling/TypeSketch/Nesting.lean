/-!
# The nesting limit

Every walk over nested data has the same budget of frames and pays for each container
it enters. Reading a text pays one frame for an array or an object. Admitting a value
as a document pays two for an array and one for an object. Declaring types pays one for
an array and two for an object. A walk that cannot pay gives up on the whole value.

The budget is the same whichever operation begins the walk. That an operation has a frame
less when another one calls it, as conversion and validation call reading, is left out.
-/

namespace TypeSketch.Nesting

/-- The frames that a walk may have in use at one time. -/
def frames : Nat := 990

end TypeSketch.Nesting
