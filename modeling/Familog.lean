import Familog.Decoding
import Familog.Operation.Creation
import Familog.Operation.Honesty
import Familog.Operation.Spinner
import Familog.Users.Readers
import Familog.Membership.Accounts
import Familog.Membership.Creation
import Familog.Membership.Posts
import Familog.Feed.Exactness
import Familog.Feed.Alignment
import Familog.Feed.Order
import Familog.Feed.Rows
import Familog.Chat.Following
import Familog.Chat.Window
import Familog.Chat.RoundTrip
import Familog.Chat.Avatars
import Familog.Channels.Listing
import Familog.Switch.Listing
import Familog.Detail.Deletion
import Familog.Discussion.Sending
import Familog.Discussion.Orphans
import Familog.Discussion.Counters
import Familog.Users.Profiles
import Familog.Feed.GridExactness
import Familog.Feed.Skipping
import Familog.Editing.Bio
import Familog.Editing.Description
import Familog.LogInPage.Validation
import Familog.Cells.Ages
import Familog.Cells.Recycling
import Familog.Users.Routing
import Familog.Users.Commuting
import Familog.Membership.Joining
import Familog.Switch.Rows
import Familog.Chat.Agreement
import Familog.Membership.Privacy
import Familog.Membership.Ledger
import Familog.Discussion.Permanence
import Familog.Membership.Circle
import Familog.Membership.Careful
import Familog.Membership.Complete
