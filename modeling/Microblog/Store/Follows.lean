import Microblog.Store.Basic

/-!
# Follow edges

Only a stored user can be followed, and only once by the same follower; to stop
following someone always succeeds.
-/

namespace Microblog.Store

/-- Whether a user follows another one. -/
def isFollowing (follower followed : Int64) (s : Store) : Bool :=
  s.follows.contains (follower, followed)

def follow (follower followed : Int64) (s : Store) : Except Failure Unit × Store :=
  if ¬ s.users.contains followed then (.error .notFound, s)
  else if s.isFollowing follower followed then (.error .alreadyExists, s)
  else (.ok (), { s with follows := (follower, followed) :: s.follows })

def unfollow (follower followed : Int64) (s : Store) : Store :=
  { s with follows := s.follows.filter (· != (follower, followed)) }

end Microblog.Store
