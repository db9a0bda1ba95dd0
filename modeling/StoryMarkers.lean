import StoryMarkers.Main
import StoryMarkers.Proofs.Tree.Paths
import StoryMarkers.Proofs.Tree.Slots
import StoryMarkers.Proofs.Tree.FirstMatch
import StoryMarkers.Proofs.Tree.Mapping
import StoryMarkers.Proofs.Tree.Writing
import StoryMarkers.Proofs.Tree.Listing
import StoryMarkers.Proofs.Subscription.Requests
import StoryMarkers.Proofs.Scene.Nodes
import StoryMarkers.Proofs.Subscription.Batches
import StoryMarkers.Proofs.Subscription.Session
import StoryMarkers.Proofs.Subscription.Settling
import StoryMarkers.Proofs.Scene.WellFormed
import StoryMarkers.Proofs.Subscription.Lifecycle
import StoryMarkers.Proofs.Subscription.Reordering
import StoryMarkers.Proofs.Scene.Derivation
import StoryMarkers.Proofs.Subscription.Streaming
import StoryMarkers.Proofs.Json.Numbers
import StoryMarkers.Proofs.Json.Reading
import StoryMarkers.Proofs.Json.Decoding
import StoryMarkers.Proofs.Json.Records
import StoryMarkers.Proofs.Snapshot.Properties
import StoryMarkers.Proofs.Snapshot.Owners
import StoryMarkers.Proofs.Snapshot.Reload
import StoryMarkers.Proofs.Subscription.Audience
import StoryMarkers.Proofs.Subscription.Keeping
import StoryMarkers.Proofs.App.Selection
import StoryMarkers.Proofs.Subscription.Indifference
import StoryMarkers.Proofs.Tree.Lens
import StoryMarkers.Proofs.Subscription.Exchange
import StoryMarkers.Proofs.Subscription.Diffing
import StoryMarkers.Proofs.Tree.Shadowing
import StoryMarkers.Proofs.Tree.Candidates
import StoryMarkers.Proofs.Scene.Borrowing
import StoryMarkers.Proofs.Subscription.Addressing
import StoryMarkers.Proofs.Subscription.Leaving
import StoryMarkers.Proofs.Marker.Coordinates
import StoryMarkers.Proofs.Marker.Sizes
import StoryMarkers.Proofs.Catalog
import StoryMarkers.Proofs.Snapshot.Rereading
import StoryMarkers.Proofs.Geometry.Rational
import StoryMarkers.Proofs.Geometry.Mapping
import StoryMarkers.Proofs.Geometry.Zooming
import StoryMarkers.Proofs.Overlay.Picking
import StoryMarkers.Proofs.App.Loading
import StoryMarkers.Proofs.Geometry.Fitting
import StoryMarkers.Proofs.Tree.Walking
import StoryMarkers.Proofs.Tree.Enumeration
import StoryMarkers.Proofs.Tree.Indexing
import StoryMarkers.Proofs.Subscription.Separation
