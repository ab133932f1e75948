import NfsFuse.Lib.Resumption
import NfsFuse.Lib.Footprint
import NfsFuse.Lib.HashTable
import NfsFuse.Lib.Search
import NfsFuse.Lib.Server
import NfsFuse.Lib.Interleaving
import NfsFuse.Lib.Cursor
import NfsFuse.Lib.LastWriter
import NfsFuse.Lib.Patch
import NfsFuse.Lib.CString
import NfsFuse.Lib.Pool
import NfsFuse.Lib.Retry
import NfsFuse.Lib.Visible
import NfsFuse.Lib.Chain
import NfsFuse.Lib.Simulation
import NfsFuse.Lib.Holding
import NfsFuse.Base.Posix
import NfsFuse.Rpc.Wire
import NfsFuse.Fuse.Reply
import NfsFuse.Inode.Daemon
import NfsFuse.Inode.ErrPtr
import NfsFuse.Inode.Cache
import NfsFuse.Inode.Links
import NfsFuse.Inode.ChainRaces
import NfsFuse.Inode.Nfs
import NfsFuse.Inode.Numbering
import NfsFuse.Inode.Identity
import NfsFuse.Nfs3.Attributes
import NfsFuse.Nfs3.Procedures
import NfsFuse.Nfs3.Readdir
import NfsFuse.Nfs3.Acl
import NfsFuse.Nfs3.Coherence
import NfsFuse.Nfs3.Footprints
import NfsFuse.Nfs3.StatRoutes
import NfsFuse.Nfs3.SetAcl
import NfsFuse.Nfs3.AclCodec
import NfsFuse.Nfs3.SetxattrStatus
import NfsFuse.Nfs3.Acquisition
import NfsFuse.Mount.Options
import NfsFuse.Mount.DeviceNames
import NfsFuse.Mount.Mount
import NfsFuse.Mount.FillSuper
import NfsFuse.Mount.Outcome
import NfsFuse.Mount.Grammar
import NfsFuse.Mount.Transport
import NfsFuse.Mount.Sizes
import NfsFuse.Mount.Buffers
import NfsFuse.Mount.OptionParser
import NfsFuse.Nfs3.ErrorPointers
import NfsFuse.Fuse.Handlers
import NfsFuse.Fuse.Footprints
import NfsFuse.Fuse.Frames
import NfsFuse.Fuse.Counting
import NfsFuse.Fuse.LookupCounts
import NfsFuse.Nfs3.Runs
import NfsFuse.Fuse.Replies
import NfsFuse.Fuse.ObjectReplies
import NfsFuse.Fuse.ListingReplies
import NfsFuse.Fuse.Serving
import NfsFuse.Fuse.OneReply
import NfsFuse.Nfs3.Errnos
import NfsFuse.Fuse.ErrorReplies
import NfsFuse.Fuse.Acknowledged
import NfsFuse.Fuse.Statistics
import NfsFuse.Fuse.XattrSizes
import NfsFuse.Fuse.CreateSemantics
import NfsFuse.Fuse.ExclusiveCreate
import NfsFuse.Fuse.References
import NfsFuse.Fuse.Listings
import NfsFuse.Fuse.Paging
import NfsFuse.Fuse.Verifiers
import NfsFuse.Nfs3.Stamps
import NfsFuse.Fuse.Provenance
import NfsFuse.Fuse.Overlap
import NfsFuse.Fuse.AttributeRequests
import NfsFuse.Fuse.Transfer
import NfsFuse.Fuse.AnyServer
import NfsFuse.Fuse.Truncation
import NfsFuse.Nfs3.Clients
import NfsFuse.Nfs3.NfsClient
import NfsFuse.Fuse.Connections
import NfsFuse.Fuse.Forwarding
import NfsFuse.Fuse.Retransmission
import NfsFuse.Fuse.Twins
import NfsFuse.Fuse.Durability
import NfsFuse.Fuse.Bindings
import NfsFuse.Fuse.Contents
import NfsFuse.Fuse.Names
import NfsFuse.Fuse.NameRuns
import NfsFuse.Mount.Rooted
import NfsFuse.Fuse.Main
import NfsFuse.Fuse.Unmounting
