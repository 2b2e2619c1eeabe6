import Tenancy.Unicode.Runs

/-!
# Characters in names

In a name a character stands for itself, for others that mean the same to a reader (capital letters
for small ones, wide forms for plain ones), for nothing at all, or it may not stand in a name.
-/

namespace Tenancy.Unicode

/-- `V` for characters that stand for themselves, `I` for those that are left out, `X` for those
that no name contains; `U` and `D` for a run that is shifted up or down; `P` for a run of pairs, the
first of each standing for the second; `S` for characters that the same sequence replaces. -/
def foldingText : String :=
  String.join
    ["V1tUq.wV11XwS.wV7S.w.lkVS.2pV2IVS.w.lgV2D2.3kS.w.ldS.qkV2S.w.mfS.1dS.33VS.1d.6dg.1g",
     "S.1d.6dg.1eS.1f.6dg.1gVUn.wVU7.wVxP1cS.2x.ljVS2.2x.2yP4VP6S2.30.53P8S.jg.32P1aS.73P6S.37V",
     "S.gjP4S.gkP2U2.5pP2VS.d9S.gpS.grP2S.gwS.gzVS.h5S.h4P2V2S.hbS.heVS.hhP6S.hsP2S.hvV2P2S.i0P2",
     "U2.61P4S.iaP2V2P2V6S3.2s.amS3.30.2yS3.32.2yPgVPiVS3.2s.3eP2S.b9S.cfP14S.biVPiV6S.8rpP2S.be",
     "S.8rqV2P2S.aoS.i1S.i4PaV2oS.2wS.h2S.2yS.36S.hlS.hnS.htS.3bS.3dVvS.w.liS.w.ljS.w.lmS.w.mg",
     "S.w.lfS.w.lnV2S.gzS.30S.37S.3cS.idV2jD2.1sVS.lvS.lk.ldS.qhV9IVwP4S.jdVP2X2S.w.qhV3S.1nS.s3X4",
     "S.w.ldS.w.lk.ldS.q4S.53U3.11XS.r0XU2.1rVUh.wXU9.wVzS.rbS.qaS.qgS.qtS.r1S.qzS.quS.qoVPoS.qi",
     "S.qpS.qrVS.qgS.qdVP2S.qrP2VD3.3mUg.28Uw.wV1cPyV8P1iS.y7PeVP2oXU12.1cX2V1aS.12d.136V3X2V3XV1j",
     "X8VrX4V6XhVmXV2gS.17r.19wS.18o.19wS.1c7.19wS.18q.19wV2sXV1cX2V1nX2V2tXeV1nX2V1dX2VfXVsX2VXVb",
     "X5VwX7V23XV39S.1sl.1toS.1sm.1toS.1sn.1toS.1ss.1toS.1sx.1toS.1sy.1toS.1t7.1toS.1tb.1toV10XV8",
     "X2V2X2VmXV7XVX3V4X2V9X2V2X2V4X8VX4S.1wh.1x8S.1wi.1x8XS.1wv.1x8V4X2VpX2V3XV6X4V2X2VmXV7XV",
     "S.20i.20sXVS.20o.20sXV2X2VXV5X4V2X2V3X3VX7S.1zq.20sS.1zr.20sS.1zw.20sVXS.20b.20sX7VhXaV3XV9X",
     "V3XVmXV7XV2XV5X2VaXV3XV3X2VXfV4X2VcX7V7XV3XV8X2V2X2VmXV7XV2XV5X2V9X2V2X2V3X7V3X4S.275.27w",
     "S.276.27wXV5X2ViXaV2XV6X3V3XV4X3V2XVXV2X3V2X3V3X3VcX4V5X3V3XV4X2VX6VXeVlX5VdXV3XVnXVgX2V9XV3",
     "XV4X7V2XV3XV2X2V4X2VaX7VmXV3XVnXVaXV5X2V9XV3XV4X7V2X5V3XV4X2VaXV3XcVdXV3XV1fXV3XV6X4VgX2VqX",
     "V3XViX3VoXV9XVX2V7X3VX4V6XVXV8X6VaX2V3XcV1eS.2tp.2syV7X4VtX11V2XVXV5XVoXVXVcS.2x9.2wiVaX2V5X",
     "VXV7XVaX2S.2wb.2vtS.2wb.2w1V2XwVcS.2yzV1iS.30i.33rV4XV4S.30s.33rV4S.30x.33rV4S.312.33rV4",
     "S.317.33rVcS.30g.33pV3X4V2S.31t.31uVS.31t.31wS.33m.328S.33m.31t.328S.33n.328S.33n.31t.328V7",
     "S.31t.328VhS.32q.33rV4XV4S.330.33rV4S.335.33rV4S.33a.33rV4S.33f.33rVcS.32o.33pV3XVfXVdX11V4g",
     "U12.5lsXS.8x3X5S.8x9X2V18S.3bwV2qI2V6gXV4X2V7XVXV4X2V15XV4X2VxXV4X2V7XVXV4X2VfXV1lXV4X2V1vX2",
     "VwX3VqX6V2eX2D6.8X2VhsXVsX3V2hX7VmX9VoX9VkXcVdXV3XV2XcV1gI2V14X2VaX6VaX6VbI5VaX6V2hX7V17X5",
     "V1yXaVvXVcX4VcX4VX3V16X2V5XbV18X4VqX6VbX3V1qX2V1tXVtX2VbX6VaX6VeX2V1aX2VcXkV25XV4mX8V1oX3Vf",
     "X3V1fS.tuS.twS.u6D2.4siS.uaS.uiS.v7S.wujP2X5D17.2bkX2D3.2bkV8X8V17X5V18S.2pS.6eS.2qVD2.5os",
     "S.d9D8.5osVS.33S.f7S.34S.36D2.5osS.3bS.2pD2.5boS.5qaS.2qD2.5pgS.gpD2.5bkS.2vVS.2zS.31S.97",
     "S.33S.gkD2.1qS.34D2.5pfS.5r1S.hbS.3aS.5r9D3.52jD2.522S.2xS.36D2.5prD2.52sS.qpD2.52bVdS.u5Vy",
     "S.giS.2rS.glS.6oS.gsS.2uS.gvS.gxS.h1D3.5doS.5tnS.ilS.h9S.5txS.inS.hdS.hcD4.5doS.hkD2.5ddS.bv",
     "D2.5d9S.5r0D2.5daS.3eD3.5d8S.qgV1sP46V4S.2p.jiS.601V2S.67VP2oV8D8.8V6X2D6.8X2V8D8.8V8D8.8V6",
     "X2D6.8X2V8XS.66pXS.66rXS.66tXS.66vV8D8.8VS.q4VS.q5VS.q6VS.q7VS.r0VS.r1VS.r2X2S.64g.qh",
     "S.64h.qhS.64i.qhS.64j.qhS.64k.qhS.64l.qhS.64m.qhS.64n.qhS.64g.qhS.64h.qhS.64i.qhS.64j.qh",
     "S.64k.qhS.64l.qhS.64m.qhS.64n.qhS.65c.qhS.65d.qhS.65e.qhS.65f.qhS.65g.qhS.65h.qhS.65i.qh",
     "S.65j.qhS.65c.qhS.65d.qhS.65e.qhS.65f.qhS.65g.qhS.65h.qhS.65i.qhS.65j.qhS.674.qhS.675.qh",
     "S.676.qhS.677.qhS.678.qhS.679.qhS.67a.qhS.67b.qhS.674.qhS.675.qhS.676.qhS.677.qhS.678.qh",
     "S.679.qhS.67a.qhS.67b.qhV2S.67k.qhS.q9.qhS.q4.qhXVS.69i.qhD2.8S.67kS.q4S.q9.qhS.w.lvS.qh",
     "S.w.lvS.w.n6S.w.lk.n6S.67o.qhS.qf.qhS.q6.qhXVS.69y.qhS.67mS.q5S.67oS.q6S.qf.qhS.w.lv.lc",
     "S.w.lv.ldS.w.lv.n6V3S.pcX2V2D2.8S.67qS.q7XS.w.lw.lcS.w.lw.ldS.w.lw.n6V3S.q8V4D2.8S.67uS.r1",
     "S.6atS.w.lk.lcS.w.lk.ldS.2oX2S.67w.qhS.qx.qhS.r2.qhXVS.6ba.qhS.67sS.r0S.67wS.r2S.qx.qhS.w.ld",
     "S.w.lwXSb.wIV2X2VS.6c0V5S.w.mrVcX3VX7S.wV3S.6cy.6cyS.6cy.6cy.6cyVS.6d1.6d1S.6d1.6d1.6d1V4",
     "S.x.xVS.w.lhV8S.1r.1rS.1r.xS.x.1rVdS.6cy.6cy.6cy.6cyV7S.wI5X5I6S.1cS.2xX2D6.6dcS.17S.6qaS.1p",
     "D2.6dxS.32Da.6dsS.17S.6qaS.1pD2.6edXS.2pS.2tS.33S.3cS.gpS.2wD4.6crS.34D2.6coX3V8S.36.37VpXe",
     "VxXfS.2p.1b.2rS.2p.1b.37S.2rS.4w.2rVS.2r.1b.33S.2r.1b.39S.grVS.4w.2uD2.6g3S3.2wS.87S2.2x",
     "S2.30VS.32S.32.33V2D3.6g9S2.36V2S.37.31S.38.2t.30S.38.31VS.3eVS.qxVS.3eVS.2zS.6dD2.6h6VS2.2t",
     "S.2uS.6kuS.31S.33D4.5etS.2xVS.2u.2p.3cS.qoS2.qbS.qoS.6q9V4S2.2sS.2tD2.6hrV6S.1d.6dg.1j",
     "S.1d.6dg.1lS.1d.6dg.1d.1cS.1d.6dg.1fS.1e.6dg.1fS.1d.6dg.1hS.1e.6dg.1hS.1f.6dg.1hS.1g.6dg.1h",
     "S.1d.6dg.1iS.1h.6dg.1iS.1d.6dg.1kS.1f.6dg.1kS.1h.6dg.1kS.1j.6dg.1kS.1d.6dgS.2xS.2x.2x",
     "S.2x.2x.2xS.2x.3aS.3aS.3a.2xS.3a.2x.2xS.3a.2x.2x.2xS.2x.3cS.3cS.3c.2xS.3c.2x.2xS.30D2.6iy",
     "S.31S.2xS.2x.2xS.2x.2x.2xS.2x.3aS.3aS.3a.2xS.3a.2x.2xS.3a.2x.2x.2xS.2x.3cS.3cS.3c.2x",
     "S.3c.2x.2xS.30D2.6jeS.31V3P2V4S.1c.6dg.1fV2X4V4cS.6qz.6qzS.6qz.6qz.6qzVS.6r2.6r2",
     "S.6r2.6r2.6r2V6wU2.2jjV73XmVbXlD9.75bS.1d.1cS.1d.1dS.1d.1eS.1d.1fS.1d.1gS.1d.1hS.1d.1i",
     "S.1d.1jS.1d.1kS.1d.1lS.1e.1cS.14.1d.15S.14.1e.15S.14.1f.15S.14.1g.15S.14.1h.15S.14.1i.15",
     "S.14.1j.15S.14.1k.15S.14.1l.15S.14.1d.1c.15S.14.1d.1d.15S.14.1d.1e.15S.14.1d.1f.15",
     "S.14.1d.1g.15S.14.1d.1h.15S.14.1d.1i.15S.14.1d.1j.15S.14.1d.1k.15S.14.1d.1l.15S.14.1e.1c.15",
     "XkS.14.2p.15S.14.2q.15S.14.2r.15S.14.2s.15S.14.2t.15S.14.2u.15S.14.2v.15S.14.2w.15S.14.2x.15",
     "S.14.2y.15S.14.2z.15S.14.30.15S.14.31.15S.14.32.15S.14.33.15S.14.34.15S.14.35.15S.14.36.15",
     "S.14.37.15S.14.38.15S.14.39.15S.14.3a.15S.14.3b.15S.14.3c.15S.14.3d.15S.14.3e.15Dq.76dDq.773",
     "S.1cV10hS.6qz.6qz.6qz.6qzV2vS.1m.1m.1pS.1p.1pS.1p.1p.1pV2tS.8gt.mwV47X2V3uU1c.1cV1cP2S.h7",
     "S.5tpS.hpV2P6S.ghS.hdS.ggS.giVP2VP2V5S.2yS.3aD2.8cfP2sV7P4V3P2X5V19XVX5VX2V1kX7S.8ypVXeVoX9",
     "V7XV7XV7XV7XV7XV7XV7XV7XV3iXyVqXV4S.lalV2bS.vj3XcS.feoS.ffsS.fg6S.fgfS.fh5S.fidS.fikS.fj4",
     "S.fjuS.g1rS.g2tS.g2zS.g3mS.g46S.g4rS.g68S.g6tS.g74S.gbfS.ge1S.getS.geyS.gfsS.gg1S.ggsS.gh5",
     "S.ghuS.gjaS.gjsS.gkjS.h5jS.h7jS.hkbS.hkyS.hl6S.hlhS.hlzS.ho3S.i1cS.i2oS.i60S.i6nS.i76S.i7s",
     "S.i9aS.i9dS.ijfS.ijpS.ik1S.ikeS.inmS.inuS.inzS.ir8S.iriS.irvS.is3S.itsS.iu9S.iurS.iwzS.jd4",
     "S.jeeS.jezS.jzjS.jzoS.k1zS.k2fS.k2sS.k3dS.k4gS.k4lS.kc0S.kcoS.kdkS.l5sS.l7mS.l89S.l9vS.laj",
     "S.lasS.lazS.lcfS.lckS.ldgS.m7fS.mjuS.mk6S.mkbS.mkfS.mknS.ml5S.ml7S.mngS.mtgS.mtlS.n30S.n3a",
     "S.n4oS.n4vS.n54S.n5cS.n7vS.n82S.neeS.nelS.nfyS.ngfS.nhqS.nobS.noiS.nozS.ny2S.o1kS.o1qS.o6s",
     "S.o97S.oahS.okzS.oooS.p4mS.p5dS.p6yS.p8dS.pa9S.pakS.paqS.pbnS.pdrS.pe1S.pnnS.pnuS.po3S.poc",
     "S.posS.pp7S.ppbS.priS.prmS.prsS.qj1S.qjvS.qwwS.qx8S.qxvS.r5qS.r63S.r82S.r9cS.rp3S.rpiS.rpx",
     "S.rqwS.rrxS.rxgS.rxsS.rznS.s6jS.s7eS.sd7S.sdsS.sdxS.sk1S.sp5S.ssmS.sssS.ssxS.tivS.tj4S.tng",
     "S.trqS.trtS.tt4S.tw1S.tweS.twiS.twpS.tzfS.u0dS.u0jS.u0xS.u5kS.u6zS.u73S.uc6S.uc9S.ucsS.ujs",
     "S.ul4S.ulbS.un9S.unjS.unmS.unwS.uoqS.uzpS.vatS.vb3S.vc5S.vcrS.vczS.vd9S.vddS.vehS.velS.vf2",
     "S.vf7S.vfkS.vgbS.vgqS.vgyS.vilS.vj0S.vj4X16S.wVS.1aV1fS.9huVS.gg1U2.6x7V5XV2eX2V2S.w.9ll",
     "S.w.9lmV2S.9l4.9l6V2nS.9mb.9mwX5V17XD2.6cxS.3hmS.3cyD2.689D3.6d0D6.68aS.3dmD3.6d7S.3dtDa.6d8",
     "Dl.6b2ID2.6dtD2.68wS.3ikS.3imS.3irS.3ivS.3ixS.3doS.3j1S.3j3D2.6dwS.3dsD2.6duS.3dzS.3e1D5.6dp",
     "S.3eaS.3eeS.3eoS.3evS.3f0D2.68hD3.6ctD2.6bnS.3goD2.6bdS.3h0S.3haS.3hdXV2S.feoS.fikS.fexS.h5n",
     "S.feyS.ffxS.fezS.n5eS.fh5S.ffdS.fepS.hm1S.h80S.fjuV1yXaVgS.14.3cw.15S.14.3cy.15S.14.3cz.15",
     "S.14.3d1.15S.14.3d2.15S.14.3d3.15S.14.3d5.15S.14.3d7.15S.14.3d8.15S.14.3da.15S.14.3db.15",
     "S.14.3dc.15S.14.3dd.15S.14.3de.15S.14.xz4.15S.14.yvs.15S.14.zc4.15S.14.108s.15S.14.10p4.15",
     "S.14.115g.15S.14.1224.15S.14.12ys.15S.14.13f4.15S.14.14bs.15S.14.14s4.15S.14.158g.15",
     "S.14.15os.15S.14.1654.15S.14.13p8.15S.14.1350.13ic.15S.14.1350.16f8.15XS.14.feo.15",
     "S.14.fik.15S.14.fex.15S.14.h5n.15S.14.fis.15S.14.g31.15S.14.fer.15S.14.g2z.15S.14.fh9.15",
     "S.14.gg1.15S.14.kco.15S.14.m7f.15S.14.ldg.15S.14.kdk.15S.14.ssx.15S.14.h7j.15S.14.k4l.15",
     "S.14.kkq.15S.14.kcp.15S.14.ny6.15S.14.glp.15S.14.mm1.15S.14.rs1.15S.14.nz1.15S.14.gc4.15",
     "S.14.fkz.15S.14.gos.15S.14.i1y.15S.14.nhf.15S.14.flt.15S.14.rt3.15S.14.ggk.15S.14.nzh.15",
     "S.14.fm9.15S.14.pnu.15S.14.po3.15S.gunS.inwS.k1zS.oenV8S.34.38.2tS.1e.1dS.1e.1eS.1e.1f",
     "S.1e.1gS.1e.1hS.1e.1iS.1e.1jS.1e.1kS.1e.1lS.1f.1cS.1f.1dS.1f.1eS.1f.1fS.1f.1gS.1f.1hS.3cw",
     "D2.6lbD3.6laS.3d5D2.6l8D5.6l7S.xz4S.yvsS.zc4S.108sS.10p4S.115gS.1224S.12ysS.13f4S.14bsS.14s4",
     "S.158gS.15osS.1654S.14c8.y5cS.13p8.13dkS.138wVS.feoS.fikS.fexS.h5nS.fisS.g31S.ferS.g2zS.fh9",
     "S.gg1S.kcoS.m7fS.ldgS.kdkS.ssxS.h7jS.k4lS.kkqS.kcpS.ny6S.glpS.mm1S.rs1S.nz1S.gc4S.o2gS.n5j",
     "S.ho3S.sixS.g16S.ghcS.ligS.u11S.fm9S.g49S.l7nS.feyS.ffxS.fezS.ijqS.gkzS.gfvS.i3bS.i1yS.nhf",
     "S.fltS.rt3S.ggkS.hloS.1f.1iS.1f.1jS.1f.1kS.1f.1lS.1g.1cS.1g.1dS.1g.1eS.1g.1fS.1g.1gS.1g.1h",
     "S.1g.1iS.1g.1jS.1g.1kS.1g.1lS.1h.1cS.1d.kcoS.1e.kcoS.1f.kcoS.1g.kcoS.1h.kcoS.1i.kcoS.1j.kco",
     "S.1k.kcoS.1l.kcoS.1d.1c.kcoS.1d.1d.kcoS.1d.1e.kcoS.2w.2vS.2t.36.2vS.2t.3aS.30.38.2sS.9lu",
     "S.9lwS.9lyS.9m0D2.feS.9m5S.9m7S.9m9S.9mbS.9mdS.9mfS.9mhS.9mjS.9mlS.9mnS.9mpS.9msS.9muS.9mw",
     "D6.eyS.9n6S.9n9S.9ncS.9nfD5.eoS.9noS.9nqD6.elD4.ekS.fl0.gp8S.9lu.9n5.9oc.9mw",
     "S.9lu.9nv.9n9.9ltS.9lu.9o3.9ne.9luS.9lu.9oc.9nvS.9lw.9mz.9o3.9m8S.9lw.9o3.9mpS.9ly.9m1.9o3",
     "S.9m0.9mh.9m7.9oc.9mxS.9m0.9oc.9m3.9ocS.9m2.9o3.9mhS.9m2.9oc.9nkS.9m3.9lw.9nu",
     "S.9m3.9nt.9mr.9mwS.9m3.9nx.9nu.9ocS.9m4.9nx.9o3S.9m4.9o3.9niS.9m6.9m4S.9m6.9mz.9oc",
     "S.9m5.9np.9nu.9ocS.9m6.9nv.9mo.9ocS.9m5.9nxS.9m5.9nx.9m8.9nt.9nkS.9m5.9nx.9nl.9oc.9mw.9nv",
     "S.9m5.9nx.9nz.9mr.9mwS.9m8.9nt.9nkS.9m8.9nt.9nk.9mw.9o3S.9m7.9nv.9mk.9lw.9nx",
     "S.9m7.9nx.9oc.9n1S.9m9.9oc.9mhS.9mb.9nv.9myS.9mb.9oc.9nhS.9md.9lw.9m7.9nv",
     "S.9md.9o3.9mp.9oc.9nkS.9mf.9nu.9o3.9m8S.9mj.9o3.9mpS.9mj.9o3.9mwS.9mo.9oc.9mhS.9mv.9mf",
     "S.9mx.9nvS.9mw.9o3S.9my.9n2S.9n2.9mr.9mwS.9n3.9lw.9msS.9n5.9oc.9mj.9o3.9mwS.9n5.9oc.9ms",
     "S.9n4.9oc.9nw.9nvS.9n8.9lu.9mh.9mw.9nvS.9n8.9m7.9nvS.9n8.9mbS.9n7.9nvS.9n9.9lt.9nt.9mr.9mx",
     "S.9n9.9lv.9oc.9mwS.9na.9mr.9mf.9lz.9nvS.9n9.9nt.9o3S.9nc.9m7.9mn.9oc.9nvS.9ne.9ml",
     "S.9ne.9mz.9n6S.9nc.9nv.9msS.9ne.9o3.9mhS.9ne.9oc.9mgS.9nd.9oc.9mnS.9nh.9lw.9o3.9mw",
     "S.9ng.9nv.9mwS.9nf.9o3S.9nh.9o3.9mxS.9nf.9oc.9nvS.9nf.9oc.9o3S.9ni.9lw.9m7.9nxS.9ni.9lw.9nv",
     "S.9ni.9mr.9n3S.9ni.9nv.9m7S.9ni.9o3.9mf.9nr.9o3S.9nj.9m7.9nx.9o3S.9nj.9nu",
     "S.9nj.9nu.9n4.9oc.9nvS.9nl.9m4S.9nl.9m4.9mw.9o3S.9nl.9oc.9mw.9nvS.9no.9oc.9mxS.9no.9oc.9nv",
     "S.9nq.9lu.9o3S.9nu.9mr.9mw.9nvS.9nu.9ntS.9nv.9n8.9ocS.9nv.9oc.9na.9nvS.9nw.9nk",
     "S.9nw.9o3.9mw.9ma.9o3S.9nz.9mr.9mwS.1c.m9lS.1d.m9lS.1e.m9lS.1f.m9lS.1g.m9lS.1h.m9lS.1i.m9l",
     "S.1j.m9lS.1k.m9lS.1l.m9lS.1d.1c.m9lS.1d.1d.m9lS.1d.1e.m9lS.1d.1f.m9lS.1d.1g.m9lS.1d.1h.m9l",
     "S.1d.1i.m9lS.1d.1j.m9lS.1d.1k.m9lS.1d.1l.m9lS.1e.1c.m9lS.1e.1d.m9lS.1e.1e.m9lS.1e.1f.m9l",
     "S.1e.1g.m9lS.2w.34.2pS.2s.2pS.2p.39S.2q.2p.36S.33.3aS.34.2rS.2s.31S.2s.31.1eS.2s.31.1f",
     "S.2x.39S.inn.jdcS.k6l.gp8S.hlz.l7nS.k5q.lh7S.kkq.irz.fmi.ny6S.34.2pS.32.2pS.qk.2pS.31.2p",
     "S.2z.2pS.2z.2qS.31.2qS.2v.2qS.2r.2p.30S.2z.2r.2p.30S.34.2uS.32.2uS.qk.2uS.qk.2vS.31.2v",
     "S.2z.2vS.2w.3eS.2z.2w.3eS.31.2w.3eS.2v.2w.3eS.38.2w.3eS.qk.30S.31.30S.2s.30S.2z.30S.2u.31",
     "S.32.31S.qk.31S.31.31S.2r.31S.2z.31S.31.31.1eS.2r.31.1eS.31.1eS.2z.31.1eS.31.31.1fS.2r.31.1f",
     "S.31.1fS.2z.31.1fS.31.6qd.37S.31.6qd.37.1eS.34.2pS.2z.34.2pS.31.34.2pS.2v.34.2pS.36.2p.2s",
     "S.36.2p.2s.6qd.37S.36.2p.2s.6qd.37.1eS.34.37S.32.37S.qk.37S.31.37S.34.3aS.32.3aS.qk.3a",
     "S.31.3aS.2z.3aS.31.3aS.34.3bS.32.3bS.qk.3bS.31.3bS.2z.3bS.31.3bS.2z.qxS.31.qxXS.2q.35S.2r.2r",
     "S.2r.2sS.2r.6qd.2z.2vXS.2s.2qS.2v.3dS.2w.2pS.2w.34S.2x.32S.2z.2zS.2z.31S.2z.38S.30.31S.30.32",
     "S.30.33.2vS.30.3cS.31.2qS.31.2x.30S.31.33.30S.34.2wXS.34.34.31S.34.36S.37.36S.37.3aS.3b.2q",
     "S.3a.6qd.31S.2p.6qd.31S.1d.k4lS.1e.k4lS.1f.k4lS.1g.k4lS.1h.k4lS.1i.k4lS.1j.k4lS.1k.k4l",
     "S.1l.k4lS.1d.1c.k4lS.1d.1d.k4lS.1d.1e.k4lS.1d.1f.k4lS.1d.1g.k4lS.1d.1h.k4lS.1d.1i.k4l",
     "S.1d.1j.k4lS.1d.1k.k4lS.1d.1l.k4lS.1e.1c.k4lS.1e.1d.k4lS.1e.1e.k4lS.1e.1f.k4lS.1e.1g.k4l",
     "S.1e.1h.k4lS.1e.1i.k4lS.1e.1j.k4lS.1e.1k.k4lS.1e.1l.k4lS.1f.1c.k4lS.1f.1d.k4lS.2v.2p.30Vm8d",
     "X3V1jX9V9oXkP1aViPsS.uiS.ukV2iX8VyPeV2P1qS.x2nV8P4S.5tlPaV3P2S.h1V2P4V2PkS.h2S.gsS.gxS.h8",
     "S.h6VS.imS.hzS.ilS.xubPgS.x3oS.huS.5u6P4S.h0PgS.bfXkS.37S.2rS.2uS.35P2VS.87S.9fV1fX3VaX6V1k",
     "X8V1yX8VcX6V38XbVuX3V26XVbX4VxXV1jX9VeX2VaX2V2vXoVsXaV6X2V6X2V6X9V7XV7XV18S.x0nS.xtjS.h7",
     "S.xuaV9S.i5V2X4D28.tzkV1aX2VaX6V8mcXcVnX4V1dX6isS.rpkS.kc4S.s7eS.rt4S.lw1S.fg2S.gklS2.vj0",
     "S.hn5S.ssxS.gw7S.hmwS.jcmS.ne1S.p6tS.qinS.qt6S.r20S.sjzS.kxuS.ljvS.mahS.mvyS.q4dS.sq2S.uep",
     "S.fiaS.ghhS.l50S.mjfS.qi5S.v8eS.ifkS.m3vS.qfhS.r50S.jihS.pncS.qvzS.iq2S.kd3S.lm2S.mpoS.slq",
     "S.fpiS.g53S.gdaS.jwkS.l3nS.mj4S.nhjS.pa9S.qh2S.qjgS.s1bS.tv6S.upbS.v7eS.nt8S.nzzS.otcS.q15",
     "S.t1gS.vb3S.rfaS.hjzS.iroS.okgS.pdqS.mleS.nuyS.rsyS.ttjS.hjsS.i8yS.kybS.lp6S.lxrS.oq7S.oxj",
     "S.torS.gcyS.pe3S.g64S.g5oS.o4cS.ou6S.q29S.tpxS.rk0S.jinS.kxuS.rgeS.fg9S.i5jS.iz6S.mtjS.n74",
     "S.gevS.nwbS.fr3S.iw9S.ff1S.lhoS.k1kS.opuS.gjnS.hgeS.ni9S.q4pS.re2S.la2S.sdsS.lfsS.jjyS.put",
     "S.jogS.n6tS.fjiS.g2xS.g5lS.kn5S.oo7S.prjS.rf6S.ssvS.gdxS.gn6S.ho3S.ir0S.k3pS.m4eS.nxmS.tkd",
     "S.ui2S.vbrS.vdaS.gbfS.kauS.l87S.sbmS.inoS.j9sS.jcwS.jveS.lybS.mdlS.n0pS.o22S.ovoS.pdbS.s9y",
     "S.q9aS.sgzS.t3eS.g7rS.gbnS.gqlS.ma0S.r0iS.re2S.iq1S.iydS.jnfS.l9qS.ojiS.mt1S.fl0S.h6hS.i5j",
     "S.iiiS.izgS.muqS.mztS.p7eS.pc6S.svoS.ttiS.tvsS.u1kS.fpnS.o1aS.ss4S.trsS.j4xS.fieS.fyyS.i5q",
     "S.i7zS.k2hS.kxuS.mhaS.ncyS.q9oS.sjgS.vilS.k94S.tnyS.gaxS.kfvS.kj7S.lkxS.lukS.mx5S.n6hS.nsb",
     "S.opcS.u3iS.g31S.je6S.tq0S.fu3S.ie1S.lpmS.sa2S.ivfS.j7oS.kk7S.mtjS.tqeS.g89S.glrS.i91S.k5v",
     "S.kemS.ko8S.lidS.mx2S.naaS.p6hS.r0vS.r1dS.sssS.tsyS.gfzS.lveS.gm5S.mhcS.n14S.qgqS.tr7S.uvr",
     "S.vbzS.kgnS.lorS.pnsS.o97S.obkS.oluS.mo0S.m8pS.riwS.fk0S.px2S.g8qS.g7bS.ip2S.jirS.onqS.i2t",
     "S.ljyS.kacS.sajS.qx8S.totS.r63S.iqbS.g1sS.gxsV2S.hgaVS.k8kV2S.g66S.mqyS.ngqS.ny4S.nz2S.nz9",
     "S.o0fS.tw6S.on2S.p8dVS.qheVS.rg8V2S.shkS.sn1V3S.u7jS.u7wS.u94S.v5gS.sm6S.trrS.fqmS.fzbS.g25",
     "S.gcpS.gdgS.gghS.gwtS.gzqS.h2gS.hfkS.higS.i90S.i9aS.j2sS.j8oS.j9qS.jciS.k0fS.k4iS.k9dS.kn9",
     "S.lmfS.lqyS.lyaS.memS.mjvS.mxuS.ntdS.ny6S.nyhS.nygS.nyoS.nyuS.nz1D2.pfpS.o5cS.o75S.og0S.ovo",
     "S.ow9S.oxtS.p6aS.padS.pnxS2.prtS.q53S.r2oS.r6eS.rghS.ri1S.rtfS.ruwS.sdyS.shkS.tszS.u0vS.u2j",
     "S.j1xS.36cuS.pp4X2S.ffqS.g51S.g2wS.fpcS.g1xS.g3kS.gcnS.ge2S.gwtS.gutS.gwpS.gyqS.hgaS.hir",
     "S.hmsS.hn8S.huqS.i08S.iqaS.iqhS.iuhS.iwdS.j4oS.j7yS.j60S.j9qS.j8gS.jciS.jecS.jpgS.jrwS.jte",
     "S.k0mS.k8kS.kd3S.kd7S.keuS.l89S.la2S.lkxS.lwbS.lvvS.lyaS.m5aS.memS.nmvS.mk5S.mnjS.mqyS.n01",
     "S.n46S.n5nS.nbxS.nbzS.ngqS.nh7S.nhwS.nkaS.nk0S.nv0S.o8hS.og0S.ol7S.orfS.ovoS.p4uS.padS.pxu",
     "S.q27S.qrdS.r41S.r5yS.r6eS.renS.rg8S.rezS.rghS.rgeS.rfxS.ri1S.rkaS.ruwS.sagS.sj6S.srdS.sxi",
     "S.tq4S.tszS.tw6S.tzvS.u0vS.u17S.u2jS.umqS.vj0S.313eS.3138S.33dhS.brxS.cnsS.copS.39e1S.3bgw",
     "S.3i6rS.vgjS.vimX12S.2u.2uS.2u.2xS.2u.30S.2u.2u.2xS.2u.2u.30S2.37.38XcS.12s.12uS.12s.12d",
     "S.12s.12jS.132.12uS.12s.12lX5S.15l.14kVS.16a.14nS.15uS.15cD2.1cgfD3.1cg9S.160S.162S.17",
     "S.161.14xS.161.14yS.161.14s.14xS.161.14s.14yS.15c.14nS.15c.14oS.15c.14sS.15d.14sS.15e.14s",
     "S.15f.14sS.15g.14sS.15h.14sS.15i.14sXS.15k.14sS.15l.14sS.15m.14sS.15n.14sS.15o.14sXS.15q.14s",
     "XS.15s.14sS.15t.14sXS.15v.14sS.15w.14sXS.15y.14sS.15z.14sS.160.14sS.161.14sS.162.14s",
     "S.15h.14pS.15d.14vS.15n.14vS.15w.14vS.15c.15oS2.19tS4.1a3S4.1a6S4.1a8S4.1a2S4.1a7S4.1a1",
     "S4.1b8S4.1baS4.1acS4.1abS4.1aeS4.1afS2.1alS2.1akS2.1amS2.1agS2.1awS2.1apS4.1bdS4.1bjS4.1bn",
     "S4.1blS2.1buS4.1bvS2.1c0S4.1c1S4.1byS2.1ciS2.1cjVxS4.1bhS2.1c7S2.1c6S2.1c8S.1c7.19wS2.1cb",
     "S2.1c5S2.1c9S4.1cgS2.18pS2.17q.17rS2.17q.1clS2.17q.18oS2.17q.1c7S2.17q.1c6S2.17q.1c8",
     "S3.17q.1cgS3.17q.18pS4.1ccS.17q.17wS.17q.17xS.17q.18lS.17q.18pS.17q.18qS.17s.17wS.17s.17x",
     "S.17s.17yS.17s.18lS.17s.18pS.17s.18qS.17u.17wS.17u.17xS.17u.17yS.17u.18lS.17u.18pS.17u.18q",
     "S.17v.17wS.17v.18lS.17v.18pS.17v.18qS.17w.17xS.17w.18lS.17x.17wS.17x.18lS.17y.17wS.17y.17x",
     "S.17y.18lS.183.17wS.183.17xS.183.17yS.183.18lS.185.17xS.185.18lS.186.17wS.186.17xS.186.17y",
     "S.186.18lS.187.17xS.187.18lS.188.18lS.189.17wS.189.18lS.18a.17wS.18a.18lS.18h.17wS.18h.17x",
     "S.18h.17yS.18h.18lS.18h.18pS.18h.18qS.18i.17xS.18i.18lS.18i.18pS.18i.18qS.18j.17rS.18j.17w",
     "S.18j.17xS.18j.17yS.18j.18kS.18j.18lS.18j.18pS.18j.18qS.18k.17wS.18k.17xS.18k.17yS.18k.18l",
     "S.18k.18pS.18k.18qS.18l.17wS.18l.17xS.18l.17yS.18l.18lS.18l.18pS.18l.18qS.18m.17wS.18m.17x",
     "S.18m.17yS.18m.18lS.18m.18pS.18m.18qS.18n.17wS.18n.18lS.18n.18pS.18n.18qS.18q.17wS.18q.17x",
     "S.18q.17yS.18q.18lS.18q.18pS.18q.18qS.180.19sS.181.19sS.18p.19sS.w.18s.18xS.w.18t.18x",
     "S.w.18u.18xS.w.18v.18xS.w.18w.18xS.w.18x.19sS.17q.181S.17q.182S.17q.18lS.17q.18mS.17q.18p",
     "S.17q.18qS.17s.181S.17s.182S.17s.18lS.17s.18mS.17s.18pS.17s.18qS.17u.181S.17u.182S.17u.18l",
     "S.17u.18mS.17u.18pS.17u.18qS.17v.181S.17v.182S.17v.18lS.17v.18mS.17v.18pS.17v.18qS.18h.18p",
     "S.18h.18qS.18i.18pS.18i.18qS.18j.17rS.18j.18kS.18j.18lS.18j.18pS.18j.18qS.18k.18lS.18k.18p",
     "S.18k.18qS.18l.17rS.18l.18lS.18m.181S.18m.182S.18m.18lS.18m.18mS.18m.18pS.18m.18qS.18p.19s",
     "S.18q.181S.18q.182S.18q.18lS.18q.18mS.18q.18pS.18q.18qS.17q.17wS.17q.17xS.17q.17yS.17q.18l",
     "S.17q.18nS.17s.17wS.17s.17xS.17s.17yS.17s.18lS.17s.18nS.17u.17wS.17u.17xS.17u.17yS.17u.18l",
     "S.17u.18nS.17v.18lS.17w.17xS.17w.18lS.17x.17wS.17x.18lS.17y.17wS.17y.18lS.183.17wS.183.17x",
     "S.183.17yS.183.18lS.185.17xS.185.17yS.185.18lS.186.17wS.186.17xS.186.17yS.186.18lS.187.17x",
     "S.188.18lS.189.17wS.189.18lS.18a.17wS.18a.18lS.18h.17wS.18h.17xS.18h.17yS.18h.18lS.18i.17x",
     "S.18i.18lS.18j.17wS.18j.17xS.18j.17yS.18j.18kS.18j.18lS.18k.17wS.18k.17xS.18k.17yS.18k.18l",
     "S.18k.18nS.18l.17wS.18l.17xS.18l.17yS.18l.18lS.18m.17wS.18m.17xS.18m.17yS.18m.18lS.18m.18n",
     "S.18n.17wS.18n.18lS.18n.19sS.18q.17wS.18q.17xS.18q.17yS.18q.18lS.18q.18nS.17q.18lS.17q.18n",
     "S.17s.18lS.17s.18nS.17u.18lS.17u.18nS.17v.18lS.17v.18nS.183.18lS.183.18nS.184.18lS.184.18n",
     "S.18j.18kS.18j.18lS.18k.18lS.18m.18lS.18m.18nS.18q.18lS.18q.18nS.18g.18u.18xS.18g.18v.18x",
     "S.18g.18w.18xS.187.18pS.187.18qS.189.18pS.189.18qS.18a.18pS.18a.18qS.183.18pS.183.18q",
     "S.184.18pS.184.18qS.17x.18pS.17x.18qS.17w.18pS.17w.18qS.17y.18pS.17y.18qS.185.18pS.185.18q",
     "S.186.18pS.186.18qS.184.17wS.184.17xS.184.17yS.184.18lS.184.181S.183.181S.185.181S.186.181",
     "S.187.18pS.187.18qS.189.18pS.189.18qS.18a.18pS.18a.18qS.183.18pS.183.18qS.184.18pS.184.18q",
     "S.17x.18pS.17x.18qS.17w.18pS.17w.18qS.17y.18pS.17y.18qS.185.18pS.185.18qS.186.18pS.186.18q",
     "S.184.17wS.184.17xS.184.17yS.184.18lS.184.181S.183.181S.185.181S.186.181S.184.17wS.184.17x",
     "S.184.17yS.184.18lS.183.18nS.184.18nS.187.18lS.183.17wS.183.17xS.183.17yS.184.17wS.184.17x",
     "S.184.17yS.187.18lS.188.18lS2.17r.18rViS.17u.17w.18lS2.17u.17x.17wS.17u.17x.18lS.17u.17y.18l",
     "S.17u.18l.17wS.17u.18l.17xS.17u.18l.17yS2.17w.18l.17xS.17x.18l.18qS.17x.18l.18pS.183.17x.17w",
     "S.183.17w.17xS.183.17w.18pS2.183.18l.17xS.183.18l.17wS2.183.18l.18lS2.185.17x.17x",
     "S.185.18l.18lS2.184.17x.18lS.184.17w.18qS2.184.18l.17yS2.184.18l.18lS.186.17x.18p",
     "S2.186.17y.18lS2.187.18l.17xS.187.18l.18lS.187.18l.18qS.189.17w.18lS2.189.18l.18l",
     "S.189.18l.18pS.18a.18l.18lS.18a.18l.18qS.18a.18l.18pS2.18h.17y.18lS.18i.18l.17xS.18i.18l.18l",
     "S.18k.17x.18lS.18k.17x.18qS.18k.17x.18pS2.18k.17w.17wS2.18k.17y.18lS2.18k.18l.17x",
     "S.18l.17x.17wS.18l.17x.18lS.18l.17x.18qS.18l.17w.17xS.18l.17w.18lS.18l.17y.17wS.18l.17y.18l",
     "V2S.18l.17w.17yS.18n.18l.17wS.18n.18l.18lS.18m.17x.18lS.18m.17x.18pS2.18m.17w.18l",
     "S.18m.17w.18pS.18m.18l.18qS.18m.18l.18pS2.18q.18l.18lS.17s.17y.18qS.17u.17w.18qS.17u.17w.18p",
     "S.17u.17y.18qS.17u.17y.18pS.17u.18l.18qS.17u.18l.18pS.17w.18l.18qS.17w.17x.18pS.17w.18l.18p",
     "S.183.17y.18pS.185.17x.18qS.184.17x.18qS.186.17x.18qS.18k.17w.18qS.18k.18l.18qS.18q.17x.18q",
     "S.18q.17w.18qS.18q.18l.18qS.18l.18l.18qS.18i.18l.18qS.18m.17x.18qS.18i.18l.17xS.18k.17x.18l",
     "S.189.18l.18qS.18j.18l.18qS.18m.17w.17xS.18l.17y.18qS.18k.17w.18lS.18j.18l.18lS.18k.17w.18l",
     "S.18m.17w.17xS.17w.17x.18qS.17x.17w.18qS.18l.17w.18qS.18h.18l.18qS.17s.17x.18qS.18j.18l.18l",
     "S.189.17w.18lS.185.18l.18lS.183.17y.18qS.18m.17w.18qV8XwS.185.18k.1ciS.18i.18k.1ci",
     "S.17r.18k.18k.18nS.17r.18j.17s.181S.18l.17x.18l.17zS.185.18k.189.18lS.181.183.18o.18k",
     "S.189.18k.18q.18nS.18o.183.18k.18lS.185.18k.18p",
     "S.185.18k.18p.w.17r.18k.18k.18n.w.189.18k.18q.18n.w.18o.183.18k.18l",
     "S.17w.18k.w.17w.18k.17r.18k.18nS.181.1cc.17r.18kV3IgS.18S.9hdXD2.1e55S.xS.1rD2.14oxX7VgX",
     "S.6c4S.6c3S2.2nD2.1e6lS.3fS.3hD2.14pxD2.14q3D2.14qbD2.14qfD4.14qdV2S.2jS.2lS4.w.lhS3.2nS.18",
     "S.9hdX2S.1nS.1mS.1rS.xS.6c4D2.1e7lS.3fS.3hD2.14qxS.zS.12D2.1e7rS.19S.1oS.1qS.1pXS.2kD2.1e85",
     "S.1sX4S.w.18rS.18g.18rS.w.18sVS.w.18tXS.w.18uS.18g.18uS.w.18vS.18g.18vS.w.18wS.18g.18w",
     "S.w.18xS.18g.18xS.w.18yS.18g.18yD2.1d27D2.1d28D2.1d29D2.1d2aD2.1d2bS3.17qS2.17rS4.17sS2.17t",
     "S4.17uS4.17vS4.17wS4.17xS4.17yS2.17zS2.180S2.181S2.182S4.183S4.184S4.185S4.186S4.187S4.188",
     "S4.189S4.18aS4.18hS4.18iS4.18jS4.18kS4.18lS4.18mS4.18nS2.18oS2.18pS4.18qS2.18k.17mS2.18k.17n",
     "S2.18k.17pS2.18k.17rX2IXDw.1ecgDq.1ebkD10.1ecgD2.168qS.1aD2.14yeS.9hdS.9obS.9o2S.9ltS.9lv",
     "S.9lxS.9lzS.9m1S.9nnS.9npS.9nrS.9mrS.9ocS.9luS.9lwS.9lyS.9m0D2.14ujS.9m5S.9m7S.9m9S.9mbS.9md",
     "S.9mfS.9mhS.9mjS.9mlS.9mnS.9mpS.9msS.9muS.9mwD6.14u3S.9n6S.9n9S.9ncS.9nfD5.14ttS.9noS.9nq",
     "D6.14tqS.9nzS.9o3D2.14w5ID2.1b4xS.3hmS.3cyD2.1b09D3.1b50D6.1b0aS.3dmD3.1b57S.3dtDa.1b58X3",
     "D6.1b35X2D6.1b37X2D6.1b39X2D3.1b3bX3D2.1ef2S.4sS.w.lgS.4mS.4lS.6g9XS.7b6D4.17x5S.7fkS.7grXh",
     "VcXVqXVjXV2XVfX2VeXyV3fX5V3X4V19X3V2gXVdX3VX1bV1aX3mVtX3V1dXfVsX4V10X9VuX5V17X5VuXV11X4VeX16",
     "U14.14V3aX2VaX6U10.14X4V10X4V14X8V1gXbVUb.13XUf.13XU7.13XU2.13XVbXVfXV7XV2X3V1gXcV8nX9VmXaV8",
     "XoVD2.1fhtS.6eS.ihS.gjXS.irS.xuuS.itS.isD2.1flhS.5u9S.goS.guS.ixS.h0S.gyS.gwS.ijS.87S.ikS.h3",
     "S.hwD2.1fjjS.h8S.2mmcS.x3iS.haS.2mmdS.i6S.2mmeS.6wD2.1fl9S.35S.hmS.2mmgD2.1fl7S.hsS.iwS.iu",
     "S.xuvS.ivS.i0S.8s1XS.i7D2.1fkiS.igD3.1fquS.2mmiS.2mn2X1xV6X2VXV18XV2X3VX2VnXV20X8V9X1cVjXV2",
     "X5VxX3VrX5VrX12V1kX4VkX2V1eXV2X5V8XV3XVtX2V3X4VaX7V9X7V1sXwV13X4VcX9V1iX3VtX2VrX5VqX7V4XcV7",
     "X28V21X1jU1f.1sXdV1fX7V1aX8VaX6VgUm.wX3VtX8V2X5sVvXV16XV3X2V2XgV6X8V9XxV1aX8V16XmVqX12VsXkVn",
     "X9V26X4V10X9V1qXV5XdVpX7VaX6V1hXViX8V13X9V2oXVkXbViXV1bX1qV7XVXV4XVfXVbX6V1nX5VaX6V4XV8X2V2",
     "X2VmXV7XV2XV5XVaX2V2X2V3X2VX6VX5V7X2V7X3V5XbVaXVX2VXV12XVaXVX2VXV4XVaXV2X8V2XtV2kXV5XuV20X8",
     "VaX4mV1iX2V12XyV1xXbVaX6VdXjV1mX6VaX6VkXsVrX2VfX4VnX55V1oX2sUw.wV1fXcV8X2VX2V8XV2XVuXV2X2Vc",
     "X9VaX1yV8X2V1aX2VbXrV20X8V2bXdV21X7VaX2eV8X2gVyXeVaX6V9XV19XVeXaVtX3VwX2VmXVeX21V7XV2XV18X3V",
     "XV2XV9X8VaX6V6XV2XV11XV2XV6X7VaX6V18X4VaX6uVpX7VhXV15X3VtX2dVXfV1eXdVpnX2uV33XV5XbV5gX218V2r",
     "XdVtsXgVmXaV32zX5Vg7X5a1V1mX1c6VftX7VvXVaX4V29XVaX6VuX2V6XaV1yXaVaXV7XVlX5VjXc0V1mX5iUw.wV1n",
     "X5Up.rX2VpX18V23X4V1lX7VhX1sV5XbV7X9V5p2X15VwX2pV37X6ppV4XV7XV2XV83XfVXtV3X2VXeV4X8Vb0X1s4",
     "V2zX5VdX3V9X7VaX2V4I4X318V5yDq.2iydDa.2j0gV3X3Vc4X6VnXfVhXfV1aX2VnX9V38X1oV6uXaV13X2V1h",
     "S.2jx3.2jxhS.2jx4.2jxhS.2jx4.2jxh.2jxqS.2jx4.2jxh.2jxrS.2jx4.2jxh.2jxsS.2jx4.2jxh.2jxt",
     "S.2jx4.2jxh.2jxuVeI8V1sS.2jzt.2jxhS.2jzu.2jxhS.2jzt.2jxh.2jxqS.2jzu.2jxh.2jxq",
     "S.2jzt.2jxh.2jxrS.2jzu.2jxh.2jxrV16XlV1yX3eVkXcVkXcV2fX9VpX3rDq.2kdbDq.2ke1Dq.2kerD7.2kfhX",
     "Di.2kfhDq.2kg7Dq.2kgxS.2pXD2.2khnX2S.2vX2D2.2khnX2D4.2khnXD8.2khnD4.2kidXS.2uXD7.2kidX",
     "Db.2kidDq.2kj3Dq.2kjtD2.2kkjXD4.2kkjX2D8.2kkjXD7.2kkjXDq.2kl9D2.2klzXD4.2klzXD5.2klzXS.33X3",
     "D7.2klzXDq.2kmpDq.2knfDq.2ko5Dq.2kovDq.2kplDq.2kqbDq.2kr1Dq.2krrDq.2kshDq.2kt7Dq.2ktxDq.2kun",
     "Dq.2kvdS.8hS.frX2Dh.2k8nS.qgD7.2k8nS.6pzDh.2k9dS2.qrD6.2k9dS.6puS.qdS.qgS.qiS.quS.qpS.qo",
     "Dh.2ka9S.qgD7.2ka9S.6pzDh.2kazS2.qrD6.2kazS.6puS.qdS.qgS.qiS.quS.qpS.qoDh.2kbvS.qgD7.2kbv",
     "S.6pzDh.2kclS2.qrD6.2kclS.6puS.qdS.qgS.qiS.quS.qpS.qoDh.2kdhS.qgD7.2kdhS.6pzDh.2ke7S2.qr",
     "D6.2ke7S.6puS.qdS.qgS.qiS.quS.qpS.qoDh.2kf3S.qgD7.2kf3S.6pzDh.2kftS2.qrD6.2kftS.6puS.qdS.qg",
     "S.qiS.quS.qpS.qoS2.rhX2Da.2l5qDa.2l60Da.2l6aDa.2l6kDa.2l6uVi4XfV5XVfXuoVvX6V6X5xV7XVhX2V7XV2",
     "XV5X5D9.2m0wD3.2m0vDb.2m0uS.ujD2.2m0rS.ww9S.yhS.uuS.uwS.yxS.xbS.y7D9.2m1tD2.2m1sD2.2m1qS.u9",
     "D6.2m1oD2.2m1nS.whS.uuS.utS.v3S.x7S.wupS.xdXxVX34V19X3VeX2VaX4V2X8wVvXhV1mX5VXcwV16X5yV17X4V",
     "X5cVvXVmX8V2X68V7XV4XV2XVfXV5hX2VgX15Uy.yV16X4VaX4V2XltV1wX24V1pX5eD2.2od5S.17wS.17zXS.18o",
     "S.182S.17xS.187S.18qD4.2ocnS.183S.189S.18hS.185S.18iS.181S.184D2.2odnS.17yS.180S.186S.188",
     "S.18aS.19qS.1buS.1b5S.19rXS.17sS.17wXS.18nX2S.17xXS.18qD4.2odjS.183S.189S.18hS.185S.18iX",
     "S.184D2.2oejS.17yXS.186XS.18aX6S.17wX4S.17xXS.18qXS.18kXS.18mS.183S.189XS.185S.18iXS.184X2",
     "S.17yXS.186XS.18aXS.1buXS.19rXS.17sS.17wXS.18nX2S.17xS.187S.18qS.18jXD2.2ofbS.183S.189S.18h",
     "S.185S.18iXS.184D2.2ogbS.17yXS.186S.188S.18aS.19qXS.1b5XD2.2ogpS.17wS.17zD2.2ofxS.182S.17x",
     "S.187S.18qXD3.2og7S.183S.189S.18hS.185S.18iS.181S.184D2.2oh7S.17yS.180S.186S.188S.18aX5S.17s",
     "S.17wS.17zXS.18oS.182S.17xS.187S.18qXD3.2oh3S.183S.189S.18hS.185S.18iS.181S.184D2.2oi3S.17y",
     "S.180S.186S.188S.18aX1gV2X7iV18X4V2sXcVfX2VfXVfXV11XbS.1c.18S.1d.18S.1e.18S.1f.18S.1g.18",
     "S.1h.18S.1i.18S.1j.18S.1k.18S.1l.18V5S.14.2p.15S.14.2q.15S.14.2r.15S.14.2s.15S.14.2t.15",
     "S.14.2u.15S.14.2v.15S.14.2w.15S.14.2x.15S.14.2y.15S.14.2z.15S.14.30.15S.14.31.15S.14.32.15",
     "S.14.33.15S.14.34.15S.14.35.15S.14.36.15S.14.37.15S.14.38.15S.14.39.15S.14.3a.15S.14.3b.15",
     "S.14.3c.15S.14.3d.15S.14.3e.15S.9hw.37.9hxS.2rS.36S.2r.2sS.3b.3eVDq.2q4vS.2w.3aS.31.3a",
     "S.37.2sS.37.37S.34.34.3aS.3b.2rVqS.31.2rS.31.2sS.31.36VzS.2s.2yVtX1kVqS.9kr.9jfS.9mb.9mb",
     "S.9mdXdS.jezS.i1jS.gjwS.9mvS.fikS.hlmS.r8jS.hm1S.fj8S.k68S.mchS.k2hS.g99S.ivgS.g3xS.k34S.g7x",
     "S.oqqS.n4vS.rs9S.hkgS.gmxS.lxwS.jh1S.jmdS.feoS.fexS.si2S.ijqS.ffxS.gkzS.jk7S.rxsS.jf7S.o01",
     "S.o6yS.glkS.ltsS.kcpS.kcoS.n5fS.gaaS.gxiS.sp9X4S.9hw.kdo.9hxS.9hw.fex.9hxS.9hw.fik.9hx",
     "S.9hw.i2x.9hxS.9hw.m9l.9hxS.9hw.jf7.9hxS.9hw.nh3.9hxS.9hw.gd9.9hxS.9hw.k0n.9hxX7S.ivrS.gkvXe",
     "V6X4aVrdX3VhX3VdX3V62X6VcX4VXfVcX4V1kX8VaX6V14X8VuX2VcX4V2XeV9X13V9kX8VeX2VdX3VbX3V1lXVX4Vg",
     "X2VcX4VaX7V43XV2kDa.2saoVXslVwyoXwV3dqX2V4geX2V5rlXfVhaX1wiS.fgdS.fg8S.fghS.2tcyS.fogS.fqm",
     "S.fqzS.fsyS.fwaS.fx5S.fzbS.fynS.ae6S.2ud6S.g25S.g2cS.g2sS.g3bS.2u58S.aexS.g2vS.g3xS.2u6j",
     "S.g47S.g4kS.fkcS.g4sS.g51S.3ly7S.g6tS.g77S.afzS.g8rS.g92S.gaaS.gafS.ahhS.gcnS.gcpS.gdgS.ge2",
     "D2.3pr8S.gevS.gg9S.gghS.ggqS.ghfS.ghpS3.ghrS.2v58S.m7kS.gjuS.gkfS.2vdvS.gkrS.gkxS.gliS.gpq",
     "S.gmwS.gncS.go8S.gpuS.gs6S.gswS.gurS.gv7S2.gw4S.gwpS.gx7S.gxfS.gxuS.h7aS.gzqS.h7bS.h1tS.h2s",
     "S.g7bS.hkeS.hceS.hdgS.he5S.hajS.hf6S.hf5S.hikS.2x9gS.hkiS.hknS.hl2S.hlmS.hluS.hnmS.2xm0",
     "S.2xnuS.hrgS.hsrS.ht3S.hqwS.huuS.aumS.av0S.hzcS2.i0uS.2y88S.i4jS.i54S.i5jS.i5vS.2yhkS.i67",
     "S.i6eS.itvS.i76S.aypS.i8wS.i9aS.ibkS.ia5S.2z1gS.if7S.2z1iS.igeS.igbS.igsD2.3nogS.b3jS.ikd",
     "S.ilkS.im5S.indS.b4yS.2zr7S.b5oS.ipcS.ipfS.ipiS.iq2S.3pg2S.iriS2.3035S.pohS2.isiS.b7rS.335k",
     "S.3cgqS.iuaS.iujS.b8jS.ivuS.ix9S.ixjS.iyhS.j29S.bayS.ba4S.j2sS.30t0S.j47S.j7sS.j7wS.j7yS.j7w",
     "S.j96S.j9qS.jaqS.jacS.janS.jbyS.jciS.jcmS.jdcS.jdnS.jfhS.jhtS.jisS.jm8S.31n0S.jlpS.jjwS.jmw",
     "S.jnnS.jqcS.31tdS.js2S.jphS.jopS.bhqS.ju1S.jumS.jvhS.jufS.bjgS.k0fS.k18S.32miS.k4jS.kc8S.k7d",
     "S.bo9S.k9dS.bnsS.bmsS.g42S.g45S.kcgS.k9oS.pf1S.dehS.kd3S.kd7S.kddS.kf2S.kerS.33czS.bplS.kje",
     "S.kg5S.kluS.kn9S.33hpS.kniS.kkfS.kr8S.brxS.ksiS.kv7S.kx6S.l2gS.33xfS.l3vS.bvcS.l5tS.34br",
     "S.l78S.bwuS.l82S.l9bD2.3l17S.34p9S.2yvfS.34saS.le6S.354sS.lhbS.lhpS.levS.ljqS.lkuS.lmfS.lkx",
     "S.lm1S.lmgS.lmtS.357iS.lkkS.lrjS.ltaS.c37S.lvvS.lvrS.35jlS.lq1S.m0eS.35niS.35ouS.m2uS.m61",
     "S.m5aS.m57S.c5yS.m6iS.m7xS.m7rS.m99S.2u5hS.mdhS.368zS.mfwS.36i3S.mjsS.mk5S.mkwS.36ywS.mm8",
     "S.mmtS.3779S.37dgS.mt6S.mtnS.cdoS.mudS2.ce0S.myvS.mzgS.n01S.n0lS.n2iS.cgrS.n50S.386uS.n5q",
     "S.389eS.n74S.2zrzS.nbkS.38v5S.38vsS.38zoS.cn0S.cncS.nhwS.394jS.394iS.395lS.396bD2.3iufS.nj3",
     "S.nkaS.copS.nm3S.cp2S.craS.39r1S.nriS.nt8S.nv0S.ctfS.3a5iS.nyuS.3a8qS.3a9xS.o0fS.o2zS.cvj",
     "S.o5cS.o5mS.o5rS.3at8S2.3b1jS.oa6S.d1eS.3b8rS.og6S.og9S.d2fS.3beoS.onmS.d5sS.oo8S.oo3S.oow",
     "S.3c06S.ornS.d8hS.oufS.ow2S.oxxS.d9wS.3ciwS.3cjrS.daxS.3cntS.p6iS.3cqmS.p79S.pa2S.padS.3d22",
     "S.3d43S.pcwS.3d7sS.pdcS.33a7S.dedS.pf6S.phfS.dfvS.pj2S.hx1S.3dlzS.3dmdS.33bnS.33bwS.pohS.pok",
     "S.sdaS.dijS.pshS.psbS.pstS.gc3S.ptdS.ptfS.ptpS.puuS.3ebgS.putS.pwdS.pybS.q0dS.pwjS.q0tS.q1z",
     "S.q53S.pxvS.q16S.q18S.q1oS.3eieS.3eqzS.3emtS.dnvS.q9dS.q9fS.qaeS.3g0aS.qckS.3f3gS.dp9S.dpd",
     "S.3f75S.3ff6S.dpnS.qj4S.qjgS.qjrS.qjtS.qllS.qkoS.qoeS.qn6S.qrdS.qp4S.qqzS.qrqS.dsnS.qu9S.qv5",
     "S.dtlS.qxsS.qxvS.3givS.r13S.r1aS.dv9S.r22S.aezS.3gz2S.3h46S.dz2S.dzbS.rdsS.rfxS.rkaS.rpx",
     "S.3hrcS.rsbS.rsxS.rvfS.rxzS.3i9bS.2upwS.s0bS.rzwS.s1cS.2uvyS.s7oS.sagS.3jkiS.3jl9S.sk4S.smp",
     "S.snlS.3ju6S.snvS.svsD2.3dhtS.sxoS.t89S.t91S.3ksaS.tjfS.ej9S.tknS.3l2vS.eliS.ts3S.iiaS.tur",
     "S.3ltxS.3lzuS.epaS.epiS.u00S.3mdmS.er6S.3mhiS2.u17S.u21S.3mpiS.u76S.eurS.u95S.ucnS.udeS.uf2",
     "S.ez2S.3nsgS.umqS.uv4S.v0dS.f66S.f71S.v3bS.3oweS.f7cS.3oxxS.3p5aS.3p8xS.vcrS.f9yS.vehS.vem",
     "S.vetS.vf3S.vfaS.vgbS.3pxcX15uV3t7X5V6juXf62uI6oX47bk"]

/-- What every character stands for. -/
def folding : Table := .ofText foldingText

/-- What a character stands for, if it may stand in a name. -/
def foldChar (c : Char) : Option (List Char) :=
  match folding.find? c with
  | none => none
  | some (start, r) =>
    match r.kind, r.numbers with
    | 'V', _ => some [c]
    | 'I', _ => some []
    | 'U', [d] => some [Char.ofNat (c.toNat + d)]
    | 'D', [d] => some [Char.ofNat (c.toNat - d)]
    | 'P', _ => some [if (c.toNat - start) % 2 = 0 then Char.ofNat (c.toNat + 1) else c]
    | 'S', image => some (image.map Char.ofNat)
    | _, _ => none

/-- Whether a character stands for itself. -/
def standsForItself (c : Char) : Bool := foldChar c = some [c]

/-- What a text stands for, if it may stand in a name. -/
def fold? (cs : List Char) : Option (List Char) := (cs.mapM foldChar).map List.flatten

end Tenancy.Unicode
